import BankStatement.Text.Basic

/-!
# Digits as numbers

Reading runs of decimal digits, in any script, and whole numbers with a sign. Between two digits a
single low line may stand as a grouping mark; white space around a number is ignored.

Main statement: `digitsValue_append`, the value of a run is read place by place.

`digitsValue?` is what numbers of all kinds come down to, such as the coefficients of amounts. It
takes digits of any script, while numbers are written in ASCII.
-/

namespace BankStatement.Text

/-- The value of a run of decimal digits, the empty run counting as zero; `none` if a character is
no decimal digit. -/
def digitsValue? (t : Text) : Option Nat :=
  t.foldl (fun value c => value.bind fun v => (digitValue? c).map fun d => 10 * v + d) (some 0)

theorem digitsValue_append (s : Text) (c : Char) :
    digitsValue? (s ++ [c]) =
      (digitsValue? s).bind fun v => (digitValue? c).map fun d => 10 * v + d := by
  simp [digitsValue?, List.foldl_append]

/-- The run of digits without its grouping marks, if every mark stands between two digits. -/
def ungroup? : Text → Option Text
  | [] => none
  | [c] => if isDecimalDigit c then some [c] else none
  | c :: '_' :: rest => if isDecimalDigit c then (ungroup? rest).map (c :: ·) else none
  | c :: rest => if isDecimalDigit c then (ungroup? rest).map (c :: ·) else none

/-- Longest number text that is converted, in digits. -/
def maxNumberDigits : Nat := 4300

/-- A whole number: optional white space, an optional sign, digits with optional grouping marks. -/
def toInt? (t : Text) : Option Int := do
  let body := strip t
  let (negative, digits) := match body with
    | '-' :: rest => (true, rest)
    | '+' :: rest => (false, rest)
    | rest => (false, rest)
  let plain ← ungroup? digits
  if plain.length ≤ maxNumberDigits then
    let value ← digitsValue? plain
    some (if negative then -Int.ofNat value else Int.ofNat value)
  else none

end BankStatement.Text
