import BankStatement.Document.Json
import BankStatement.Fault
import BankStatement.Pattern.Node

/-!
# Reading patterns

The written form of a pattern: literal characters, `.`, `^`, `$`, sets in brackets, escapes, groups
(plain, named, not remembered), back references, alternatives, and repetitions, greedy or lazy.

`Pattern.ofText` refuses two kinds of text alike, with `Fault.invalidPattern`. The first has no
meaning: an unbalanced parenthesis, a repetition of nothing or of a repetition, a range that runs
backwards, a name used twice, a reference to a group that is still open. The second has a meaning
elsewhere but none here, since the patterns of statement templates do not use it: inline flags
`(?i)`, look-ahead and look-behind, comments `(?#…)`, conditionals `(?(1)…)`, atomic groups `(?>…)`,
possessive repetitions such as `a*+`, and characters by name `\N{…}`. So a refusal alone does not
tell that a pattern is ill formed, and a pattern with one of these parts is reported as invalid even
where what follows it has a flaw of another kind. Whatever is accepted is read completely: no part
of the text is passed over.

A brace that does not form a repetition stands for itself. A number of rounds that is too great has
a fault of its own, and where a pattern has several flaws, the first one from the left is reported.
Proofs that need to know that a text is accepted show it of written forms, as
`Proofs.Matching.WrittenGlob` does; all others take the verdict of the reader as it comes.
-/

namespace BankStatement.Pattern

/-- What a reader has still to read, and the groups it has opened. -/
structure ReadState where
  rest : Text
  opened : Nat
  names : List (Text × Nat)
  /-- Groups whose closing parenthesis is still to come. -/
  pending : List Nat
  deriving DecidableEq, Repr

namespace ReadState

def goTo (st : ReadState) (rest : Text) : ReadState := { st with rest := rest }

end ReadState

/-- A part that has been read; a pattern with a part that cannot be read has no meaning. -/
def orInvalid {α : Type} : Option α → Except Fault α
  | some a => .ok a
  | none => .error .invalidPattern

/-! ## Escapes -/

/-- The characters with an escape of their own. -/
def controlEscape? : Char → Option Char
  | 'a' => some (Char.ofNat 7)
  | 'f' => some (Char.ofNat 12)
  | 'n' => some '\n'
  | 'r' => some '\r'
  | 't' => some '\t'
  | 'v' => some (Char.ofNat 11)
  | '\\' => some '\\'
  | _ => none

/-- The classes with an escape of their own, an upper case letter standing for the complement. -/
def classEscape? : Char → Option (NamedClass × Bool)
  | 'd' => some (.digit, false)
  | 'D' => some (.digit, true)
  | 's' => some (.blank, false)
  | 'S' => some (.blank, true)
  | 'w' => some (.word, false)
  | 'W' => some (.word, true)
  | _ => none

def hexWidth? : Char → Option Nat
  | 'x' => some 2
  | 'u' => some 4
  | 'U' => some 8
  | _ => none

/-- Reads exactly `width` hexadecimal digits as a character. -/
def readHex (width : Nat) (t : Text) : Option (Char × Text) :=
  let digits := t.take width
  if digits.length < width then none
  else
    match Value.hexValue? digits with
    | some n => if n < 0x110000 then some (Char.ofNat n, t.drop width) else none
    | none => none

def isOctal (c : Char) : Bool := '0' ≤ c && c ≤ '7'

def octalChar (digits : Text) : Char :=
  Char.ofNat (digits.foldl (fun n c => 8 * n + (c.toNat - '0'.toNat)) 0)

def isAsciiLetter (c : Char) : Bool := ('a' ≤ c && c ≤ 'z') || ('A' ≤ c && c ≤ 'Z')

/-- Reads an escape that stands for one character, its backslash having been read. -/
def readCharEscape : Text → Option (Char × Text)
  | [] => none
  | c :: rest =>
    match controlEscape? c with
    | some e => some (e, rest)
    | none =>
      match hexWidth? c with
      | some width => readHex width rest
      | none => if isAsciiLetter c || Value.isJsonDigit c then none else some (c, rest)

/-! ## Sets -/

/-- Reads one member of a set: a character, or a class behind a backslash. -/
def readSetMember : Text → Option (SetItem × Text)
  | [] => none
  | '\\' :: c :: rest =>
    match classEscape? c with
    | some (cls, negated) => some (.named cls negated, rest)
    | none =>
      if c = 'b' then some (.range (Char.ofNat 8) (Char.ofNat 8), rest)
      else if isOctal c then
        let digits := c :: (rest.take 2).takeWhile isOctal
        let e := octalChar digits
        some (.range e e, rest.drop (digits.length - 1))
      else (readCharEscape (c :: rest)).map fun (e, after) => (.range e e, after)
  | '\\' :: [] => none
  | c :: rest => some (.range c c, rest)

def singleChar? : SetItem → Option Char
  | .range first last => if first = last then some first else none
  | .named .. => none

/-- Reads the members of a set up to its closing bracket, which is a member when it comes first. -/
def readSet (items : List SetItem) : (fuel : Nat) → Text → Option (List SetItem × Text)
  | 0, _ => none
  | fuel + 1, t =>
    match t with
    | [] => none
    | c :: rest =>
      if c = ']' ∧ items ≠ [] then some (items, rest)
      else
        match readSetMember t with
        | none => none
        | some (item, after) =>
          match after with
          | '-' :: ']' :: last => some (items ++ [item, .range '-' '-'], last)
          | '-' :: tail =>
            match readSetMember tail with
            | none => none
            | some (upper, last) =>
              match singleChar? item, singleChar? upper with
              | some a, some b =>
                if a ≤ b then readSet (items ++ [.range a b]) fuel last else none
              | _, _ => none
          | _ => readSet (items ++ [item]) fuel after

/-! ## Repetitions -/

/-- A repetition mark: the least and the greatest number of rounds. -/
abbrev Bounds := Nat × Option Nat

/-- The least number of rounds that is too great. -/
def maxRounds : Nat := 4294967295

/-- Reads a number of rounds; without digits it is zero. -/
def readRounds (digits : Text) : Except Fault Nat :=
  if Text.maxNumberDigits < digits.length then .error .notANumber
  else
    let n := (Text.digitsValue? digits).getD 0
    if maxRounds ≤ n then .error .unbounded else .ok n

/-- Reads the braces of a repetition, the opening one having been read. -/
def readBraces (t : Text) : Except Fault (Option (Bounds × Text)) :=
  let low := t.takeWhile Value.isJsonDigit
  match t.dropWhile Value.isJsonDigit with
  | '}' :: rest =>
    if low.isEmpty then .ok none
    else do
      let n ← readRounds low
      pure (some ((n, some n), rest))
  | ',' :: tail =>
    let high := tail.takeWhile Value.isJsonDigit
    match tail.dropWhile Value.isJsonDigit with
    | '}' :: rest => do
      let least ← readRounds low
      let most ← if high.isEmpty then pure none else (do pure (some (← readRounds high)))
      pure (some ((least, most), rest))
    | _ => .ok none
  | _ => .ok none

/-- Reads a repetition mark, if the text starts with one. -/
def readBounds : Text → Except Fault (Option (Bounds × Text))
  | '*' :: rest => .ok (some ((0, none), rest))
  | '+' :: rest => .ok (some ((1, none), rest))
  | '?' :: rest => .ok (some ((0, some 1), rest))
  | '{' :: rest => readBraces rest
  | _ => .ok none

def Bounds.valid (b : Bounds) : Bool := (b.2.map fun most => decide (b.1 ≤ most)).getD true

/-- Whether an atom can be repeated; a place cannot. -/
def isRepeatable : Node → Bool
  | .place _ => false
  | _ => true

/-- Takes off the question mark of a lazy repetition; the flag tells whether it is greedy. -/
def takeLazyMark : Text → Bool × Text
  | '?' :: rest => (false, rest)
  | rest => (true, rest)

/-- Reads what follows an atom: nothing, or one repetition, lazy when a question mark follows. A
plus sign behind a repetition is a second repetition, which is refused. -/
def readRepetition (atom : Node) (t : Text) : Except Fault (Node × Text) := do
  match ← readBounds t with
  | none => pure (atom, t)
  | some (bounds, rest) =>
    if isRepeatable atom && Bounds.valid bounds then
      let (greedy, after) := takeLazyMark rest
      match ← readBounds after with
      | none => pure (.times atom bounds.1 bounds.2 greedy, after)
      | some _ => .error .invalidPattern
    else .error .invalidPattern

/-! ## Groups and sequences -/

/-- Whether a text can name a group. -/
def isGroupName : Text → Bool
  | [] => false
  | c :: rest => isWordChar c && !isAnyDigit c && rest.all isWordChar

def readName (mark : Char) (t : Text) : Option (Text × Text) :=
  let name := t.takeWhile (· != mark)
  match t.dropWhile (· != mark) with
  | [] => none
  | _ :: rest => if isGroupName name then some (name, rest) else none

/-- Reads an escape outside a set, its backslash having been read. -/
def readEscape (st : ReadState) : Text → Option (Node × ReadState)
  | [] => none
  | c :: rest =>
    match classEscape? c with
    | some (cls, negated) => some (.oneOf false [.named cls negated], st.goTo rest)
    | none =>
      if c = 'A' then some (.place .start, st.goTo rest)
      else if c = 'Z' then some (.place .stop, st.goTo rest)
      else if c = 'b' then some (.place (.wordEdge false), st.goTo rest)
      else if c = 'B' then some (.place (.wordEdge true), st.goTo rest)
      else if c = '0' then
        let digits := (rest.take 2).takeWhile isOctal
        some (.char (octalChar digits), st.goTo (rest.drop digits.length))
      else if Value.isJsonDigit c then
        let more := (rest.take 1).takeWhile Value.isJsonDigit
        let index := (Text.digitsValue? (c :: more)).getD 0
        if index ≤ st.opened && !st.pending.contains index then
          some (.sameAs index, st.goTo (rest.drop more.length))
        else none
      else (readCharEscape (c :: rest)).map fun (e, after) => (.char e, st.goTo after)

/-- Opens a group, under a name if it has one. -/
def openGroup (st : ReadState) (name : Option Text) (rest : Text) : Option (Nat × ReadState) :=
  let index := st.opened + 1
  let opened := { st with rest := rest, opened := index, pending := index :: st.pending }
  match name with
  | none => some (index, opened)
  | some n =>
    if (st.names.lookup n).isSome then none
    else some (index, { opened with names := st.names ++ [(n, index)] })

mutual

/-- Reads alternatives up to the end of the text or of the group. Every call consumes a character or
goes one level down, so three times the length of the text is enough fuel. -/
def readAlternatives : (fuel : Nat) → ReadState → Except Fault (Node × ReadState)
  | 0, _ => .error .invalidPattern
  | fuel + 1, st =>
    match readSequence fuel [] st with
    | .error fault => .error fault
    | .ok (first, st) =>
      match st.rest with
      | '|' :: rest =>
        match readAlternatives fuel (st.goTo rest) with
        | .error fault => .error fault
        | .ok (others, st) => .ok (.alt first others, st)
      | _ => .ok (first, st)

/-- Reads atoms with their repetitions, behind those already read in reverse. -/
def readSequence : (fuel : Nat) → List Node → ReadState → Except Fault (Node × ReadState)
  | 0, _, _ => .error .invalidPattern
  | fuel + 1, done, st =>
    match st.rest with
    | [] => .ok (Node.ofList done.reverse, st)
    | '|' :: _ => .ok (Node.ofList done.reverse, st)
    | ')' :: _ => .ok (Node.ofList done.reverse, st)
    | _ =>
      match readAtom fuel st with
      | .error fault => .error fault
      | .ok (atom, st) =>
        match readRepetition atom st.rest with
        | .error fault => .error fault
        | .ok (node, after) => readSequence fuel (node :: done) (st.goTo after)

/-- Reads one atom. A parenthesis with a question mark opens a group that is named or not
remembered, or refers to a named one; the other forms that start so are refused. -/
def readAtom : (fuel : Nat) → ReadState → Except Fault (Node × ReadState)
  | 0, _ => .error .invalidPattern
  | fuel + 1, st =>
    match st.rest with
    | [] => .error .invalidPattern
    | '.' :: rest => .ok (.anyChar, st.goTo rest)
    | '^' :: rest => .ok (.place .start, st.goTo rest)
    | '$' :: rest => .ok (.place .lineEnd, st.goTo rest)
    | '\\' :: rest => orInvalid (readEscape st rest)
    | '[' :: '^' :: rest =>
      orInvalid ((readSet [] (rest.length + 1) rest).map fun (items, after) =>
        (.oneOf true items, st.goTo after))
    | '[' :: rest =>
      orInvalid ((readSet [] (rest.length + 1) rest).map fun (items, after) =>
        (.oneOf false items, st.goTo after))
    | '(' :: '?' :: ':' :: rest => readBody fuel none (st.goTo rest)
    | '(' :: '?' :: 'P' :: '<' :: rest =>
      match readName '>' rest with
      | none => .error .invalidPattern
      | some (name, after) =>
        match openGroup st (some name) after with
        | none => .error .invalidPattern
        | some (index, st) => readBody fuel (some index) st
    | '(' :: '?' :: 'P' :: '=' :: rest =>
      match readName ')' rest with
      | none => .error .invalidPattern
      | some (name, after) =>
        match st.names.lookup name with
        | none => .error .invalidPattern
        | some index =>
          if st.pending.contains index then .error .invalidPattern
          else .ok (.sameAs index, st.goTo after)
    | '(' :: '?' :: _ => .error .invalidPattern
    | '(' :: rest =>
      match openGroup st none rest with
      | none => .error .invalidPattern
      | some (index, st) => readBody fuel (some index) st
    | c :: rest =>
      match readBounds (c :: rest) with
      | .error fault => .error fault
      | .ok (some _) => .error .invalidPattern
      | .ok none => .ok (.char c, st.goTo rest)

def readBody : (fuel : Nat) → Option Nat → ReadState → Except Fault (Node × ReadState)
  | 0, _, _ => .error .invalidPattern
  | fuel + 1, index, st =>
    match readAlternatives fuel st with
    | .error fault => .error fault
    | .ok (body, st) =>
      match st.rest with
      | ')' :: rest =>
        match index with
        | none =>
          -- a place or a repetition in parentheses can be repeated as a whole
          .ok (.seq .empty body, st.goTo rest)
        | some i => .ok (.group i body, { st with rest := rest, pending := st.pending.erase i })
      | _ => .error .invalidPattern

end

/-- Reads a pattern. What is refused with `Fault.invalidPattern` is ill formed or uses one of the
parts that are not read (flags, look-around, comments, conditionals, atomic groups, possessive
repetitions, characters by name). -/
def ofText (t : Text) : Except Fault Pattern :=
  match readAlternatives (4 * t.length + 4) ⟨t, 0, [], []⟩ with
  | .error fault => .error fault
  | .ok (node, st) =>
    if st.rest.isEmpty then .ok ⟨t, node, st.names, false⟩ else .error .invalidPattern

/-- A pattern from a literal known to be well formed. -/
def ofLiteral (source : String) : Pattern := (ofText source.toList).toOption.getD never

def caseless (p : Pattern) : Pattern := { p with ignoreCase := true }

end BankStatement.Pattern
