import BankStatement.Text.Table.Alphanumeric
import BankStatement.Text.Table.Digit
import BankStatement.Text.Table.Unprintable

/-!
# Classes of characters

Blanks, digits, word characters and printable characters, each after its Unicode 14 property. Blanks
are more than the ASCII ones (the no-break space and the information separators count) and less than
everything invisible (the zero width space does not).

Main statement: the digits that have a place value are worth less than ten (`digitValue_lt`).

A class is a sorted list of ranges of code points, so whether a character belongs to it is decided
by going through the list. The tables are in modules of their own.
-/

namespace BankStatement

/-- Whether a code point lies in one of the sorted, disjoint ranges. -/
def inRanges : List (Nat × Nat) → Nat → Bool
  | [], _ => false
  | (first, last) :: rest, n =>
    if n < first then false else if n ≤ last then true else inRanges rest n

/-- The first code point of the range that holds `n`. -/
def rangeStart? : List (Nat × Nat) → Nat → Option Nat
  | [], _ => none
  | (first, last) :: rest, n =>
    if n < first then none else if n ≤ last then some first else rangeStart? rest n

def blankRanges : List (Nat × Nat) := [
  (0x9, 0xD), (0x1C, 0x20), (0x85, 0x85), (0xA0, 0xA0), (0x1680, 0x1680), (0x2000, 0x200A),
  (0x2028, 0x2029), (0x202F, 0x202F), (0x205F, 0x205F), (0x3000, 0x3000)]

/-- White space: what trimming removes, and what a blank line consists of. -/
def isBlank (c : Char) : Bool := inRanges blankRanges c.toNat

/-- The value of a decimal digit of any script. Runs of ten make the offset from the start of a
range, taken modulo ten, the value. -/
def digitValue? (c : Char) : Option Nat :=
  (rangeStart? Text.Table.decimalDigit c.toNat).map fun first => (c.toNat - first) % 10

/-- A digit with a place value. -/
def isDecimalDigit (c : Char) : Bool := inRanges Text.Table.decimalDigit c.toNat

/-- A digit of any kind: superscripts and circled digits count although they have no place value. -/
def isAnyDigit (c : Char) : Bool := isDecimalDigit c || inRanges Text.Table.otherDigit c.toNat

def isAlphanumeric (c : Char) : Bool := inRanges Text.Table.alphanumeric c.toNat

/-- A word character: a letter, a numeric character or the low line. -/
def isWordChar (c : Char) : Bool := c == '_' || isAlphanumeric c

/-- A character that a quoted text shows as it is. -/
def isPrintable (c : Char) : Bool := !inRanges Text.Table.unprintable c.toNat

theorem rangeStart?_isSome (ranges : List (Nat × Nat)) (n : Nat) :
    (rangeStart? ranges n).isSome = inRanges ranges n := by
  induction ranges with
  | nil => rfl
  | cons r rest ih =>
    simp only [rangeStart?, inRanges]
    split
    · rfl
    · split
      · rfl
      · exact ih

/-- A character has a digit value exactly when it is a decimal digit. -/
theorem digitValue?_isSome (c : Char) : (digitValue? c).isSome = isDecimalDigit c := by
  simp [digitValue?, isDecimalDigit, rangeStart?_isSome]

theorem digitValue_lt {c : Char} {v : Nat} (h : digitValue? c = some v) : v < 10 := by
  obtain ⟨first, -, rfl⟩ := Option.map_eq_some_iff.1 h
  exact Nat.mod_lt _ (by decide)

end BankStatement
