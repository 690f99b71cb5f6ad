import BankStatement.Text.Basic
import BankStatement.Text.Table.Case
import BankStatement.Text.Table.SigmaContext

/-!
# Letter case

Lower case, upper case and case folding of whole texts, and equality of characters up to case. One
character may become several (`ß` in upper case is `SS`), and a capital sigma is lowered according
to its neighbours: `ς` at the end of a word, `σ` elsewhere.

Upper case and folding work character by character, so upper case commutes with concatenation
(`upper_append`); lower case does not, because of the sigma.
-/

namespace BankStatement.Text

open Table

/-! ## Characters -/

/-- The code point a sorted list of runs maps `n` to. -/
def shiftIn : List CaseRun → Nat → Nat
  | [], n => n
  | run :: runs, n =>
    if n < run.first then n
    else if n ≤ run.last && (n - run.first) % run.step == 0 then (Int.ofNat n + run.shift).toNat
    else shiftIn runs n

/-- The entry for `n` in a list sorted by its keys. -/
def entryAt? : List (Nat × List Nat) → Nat → Option (List Nat)
  | [], _ => none
  | (key, value) :: rest, n =>
    if n < key then none else if n = key then some value else entryAt? rest n

/-- What one character becomes: its expansion if it has one, else the shifted character. -/
def mapCase (runs : List CaseRun) (expansions : List (Nat × List Nat)) (c : Char) : Text :=
  match entryAt? expansions c.toNat with
  | some codes => codes.map Char.ofNat
  | none => [Char.ofNat (shiftIn runs c.toNat)]

def lowerChar (c : Char) : Text := mapCase lowerRuns lowerExpansions c

/-- The first character of the lower case of a character. -/
def simpleLower (c : Char) : Char := (lowerChar c).headD c

/-- Whether two characters are equal when case is ignored: their lower cases are equal or listed as
peers (the long s beside the s, the final sigma beside the sigma). -/
def sameIgnoringCase (a b : Char) : Bool :=
  let low := simpleLower a
  let other := simpleLower b
  low == other || ((entryAt? caselessPeers low.toNat).getD []).contains other.toNat

/-! ## Texts -/

/-- Whether the first character that case does not ignore is a cased letter. -/
def startsCased : Text → Bool
  | [] => false
  | c :: rest =>
    if inRanges caseIgnorable c.toNat then startsCased rest else inRanges cased c.toNat

/-- Lower case of a text that follows a cased letter or not. -/
def lowerAfter (afterCased : Bool) : Text → Text
  | [] => []
  | c :: rest =>
    let lowered :=
      if c = 'Σ' then [if afterCased && !startsCased rest then 'ς' else 'σ'] else lowerChar c
    let afterNext :=
      if inRanges caseIgnorable c.toNat then afterCased else inRanges cased c.toNat
    lowered ++ lowerAfter afterNext rest

def lower (t : Text) : Text := lowerAfter false t

def upper (t : Text) : Text := t.flatMap (mapCase upperRuns upperExpansions)

/-- The text with all differences of case removed: texts that differ only in case fold alike. -/
def fold (t : Text) : Text := t.flatMap (mapCase foldRuns foldExpansions)

theorem upper_append (s t : Text) : upper (s ++ t) = upper s ++ upper t := by simp [upper]

end BankStatement.Text
