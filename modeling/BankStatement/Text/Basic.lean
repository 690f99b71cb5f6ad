import BankStatement.Text.CharClass

/-!
# Texts

A text is the list of its code points, so lengths, slices and fixed widths count code points and
every text function is a recursion on the list. Here are trimming, splitting, joining, replacing and
searching.

Main statement: `joinWith_splitOn`, splitting at a separator loses nothing but the separators.

Where the definitions take white space, it is that of `isBlank`. A line end is a line feed or a
carriage return, alone or with a line feed behind it, and all of them are made line feeds before a
text is split.
-/

namespace BankStatement

/-- A text: the sequence of its code points. -/
abbrev Text := List Char

namespace Text

/-! ## Trimming -/

def stripLeft (t : Text) : Text := t.dropWhile isBlank

def dropRightWhile (p : Char → Bool) (t : Text) : Text := (t.reverse.dropWhile p).reverse

def stripRight (t : Text) : Text := dropRightWhile isBlank t

def strip (t : Text) : Text := stripRight (stripLeft t)

/-- Nothing but white space, the empty text included. -/
def isBlankText (t : Text) : Bool := t.all isBlank

/-- The stripped text, or nothing when only white space was there. -/
def strip? (t : Text) : Option Text :=
  match strip t with
  | [] => none
  | s => some s

/-- An optional text that holds something. -/
def isFilled : Option Text → Bool
  | some t => !t.isEmpty
  | none => false

/-! ## Searching -/

/-- Whether `needle` stands somewhere in the text; the empty text stands in every text. -/
def occursIn (needle : Text) : Text → Bool
  | [] => needle.isEmpty
  | c :: rest => needle.isPrefixOf (c :: rest) || occursIn needle rest

/-! ## Splitting and joining -/

def consHead (c : Char) : List Text → List Text
  | [] => [[c]]
  | part :: parts => (c :: part) :: parts

/-- The parts between the occurrences of a separator, of which `skip` characters are still to be
passed over. -/
def splitAfter (separator : Text) : Nat → Text → List Text
  | _, [] => [[]]
  | skip + 1, _ :: rest => splitAfter separator skip rest
  | 0, c :: rest =>
    if separator.isPrefixOf (c :: rest) then
      [] :: splitAfter separator (separator.length - 1) rest
    else
      consHead c (splitAfter separator 0 rest)

/-- The parts between the occurrences of a non-empty separator, taken from left to right without
overlap. There is always at least one part. -/
def splitOn (separator : Text) (t : Text) : List Text := splitAfter separator 0 t

def joinWith (separator : Text) (parts : List Text) : Text := separator.intercalate parts

/-- The text with `filler` between and around all its characters. -/
def interleave (filler : Text) : Text → Text
  | [] => filler
  | c :: rest => filler ++ c :: interleave filler rest

/-- Every occurrence of `search` replaced. The empty text occurs before every character and at the
end. -/
def replace (search replacement : Text) (t : Text) : Text :=
  if search.isEmpty then interleave replacement t
  else joinWith replacement (splitOn search t)

def erase (c : Char) (t : Text) : Text := t.filter (· != c)

/-! ## Lines -/

/-- Line ends written as carriage return, with or without a line feed, become plain line feeds. -/
def normalizeNewlines : Text → Text
  | [] => []
  | '\r' :: '\n' :: rest => '\n' :: normalizeNewlines rest
  | c :: rest => (if c = '\r' then '\n' else c) :: normalizeNewlines rest

/-- The lines of a text, whatever its line ends. Nothing is trimmed or filtered: a final line end
leaves an empty last line. -/
def lines (t : Text) : List Text := splitOn ['\n'] (normalizeNewlines t)

/-! ## Numbers and order -/

def ofNat (n : Nat) : Text := Nat.toDigits 10 n

/-- An integer in decimal digits, a minus sign in front when it is negative. -/
def ofInt : Int → Text
  | .ofNat n => ofNat n
  | .negSucc n => '-' :: ofNat (n + 1)

/-- A natural number in decimal digits, filled up with zeros to a width. -/
def padded (width n : Nat) : Text :=
  let digits := ofNat n
  List.replicate (width - digits.length) '0' ++ digits

/-- The order of texts by code points, a text coming after its own beginnings. -/
def le : Text → Text → Bool
  | [], _ => true
  | _ :: _, [] => false
  | a :: s, b :: t => a < b || (a == b && le s t)

/-! ## Small laws -/

theorem splitAfter_ne_nil (separator : Text) (skip : Nat) (t : Text) :
    splitAfter separator skip t ≠ [] := by
  fun_induction splitAfter separator skip t with
  | case1 => simp
  | case2 skip _ rest ih => exact ih
  | case3 => simp
  | case4 c rest _ ih => cases h : splitAfter separator 0 rest <;> simp [consHead]

theorem splitOn_ne_nil (separator t : Text) : splitOn separator t ≠ [] :=
  splitAfter_ne_nil separator 0 t

theorem joinWith_cons (separator part : Text) {parts : List Text} (h : parts ≠ []) :
    joinWith separator (part :: parts) = part ++ separator ++ joinWith separator parts := by
  cases parts with
  | nil => exact absurd rfl h
  | cons p ps => simp [joinWith, List.intercalate, List.intersperse]

theorem joinWith_consHead (separator : Text) (c : Char) {parts : List Text} (h : parts ≠ []) :
    joinWith separator (consHead c parts) = c :: joinWith separator parts := by
  match parts, h with
  | [p], _ => simp [consHead, joinWith]
  | p :: q :: ps, _ =>
    rw [consHead, joinWith_cons separator (c :: p) (List.cons_ne_nil q ps),
      joinWith_cons separator p (List.cons_ne_nil q ps)]
    rfl

theorem joinWith_splitAfter {separator : Text} (h : separator ≠ []) (skip : Nat) (t : Text) :
    joinWith separator (splitAfter separator skip t) = t.drop skip := by
  fun_induction splitAfter separator skip t with
  | case1 => simp [joinWith]
  | case2 skip _ rest ih => simpa using ih
  | case3 c rest found ih =>
    rw [joinWith_cons _ _ (splitAfter_ne_nil _ _ _), ih]
    obtain ⟨tail, htail⟩ := List.isPrefixOf_iff_prefix.1 found
    cases separator with
    | nil => exact absurd rfl h
    | cons d sep =>
      simp only [List.cons_append, List.cons.injEq] at htail
      simp [← htail.1, ← htail.2]
  | case4 c rest _ ih => rw [joinWith_consHead _ _ (splitAfter_ne_nil _ _ _), ih]; simp

/-- Splitting loses nothing but the separators. -/
theorem joinWith_splitOn {separator : Text} (h : separator ≠ []) (t : Text) :
    joinWith separator (splitOn separator t) = t :=
  joinWith_splitAfter h 0 t

end Text

end BankStatement
