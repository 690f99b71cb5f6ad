import BankStatement.Text.Basic

/-!
# Quoted texts

Messages show a text between quotation marks on one line. The mark is `'`, or `"` when the text
holds `'` but no `"`. The mark and the backslash are escaped, line ends and tabs have short escapes,
and a character that cannot be printed is written by its code point in two, four or eight
hexadecimal digits.
-/

namespace BankStatement.Text

/-- The lower case hexadecimal digits of a number, filled up with zeros to a width. -/
def hexPadded (width n : Nat) : Text :=
  let digits := Nat.toDigits 16 n
  List.replicate (width - digits.length) '0' ++ digits

/-- An escape by code point, in the shortest of the three forms that can hold it. -/
def escapedCode (n : Nat) : Text :=
  if n < 0x100 then '\\' :: 'x' :: hexPadded 2 n
  else if n < 0x10000 then '\\' :: 'u' :: hexPadded 4 n
  else '\\' :: 'U' :: hexPadded 8 n

/-- How one character is shown between the given quotation marks. -/
def shownBetween (mark c : Char) : Text :=
  if c = mark ∨ c = '\\' then ['\\', c]
  else if c = '\n' then ['\\', 'n']
  else if c = '\r' then ['\\', 'r']
  else if c = '\t' then ['\\', 't']
  else if isPrintable c then [c]
  else escapedCode c.toNat

def quotationMark (t : Text) : Char :=
  let single := Char.ofNat 39
  let double := Char.ofNat 34
  if t.contains single && !t.contains double then double else single

def quoted (t : Text) : Text :=
  let mark := quotationMark t
  mark :: t.flatMap (shownBetween mark) ++ [mark]

end BankStatement.Text
