import BankStatement.Decimal.Basic
import BankStatement.Text.Digits

/-!
# Decimal numbers as text

The written form keeps the coefficient as it is. It is positional while the exponent is not positive
and the first digit stands at most six places behind the point; otherwise it is scientific, with one
digit before the point and a signed exponent after `E`.

Reading accepts both forms, digits of any script, white space around the number and low lines
anywhere in it.
-/

namespace BankStatement.Decimal

open Text (digitsValue? ofNat)

/-- Digits with a point after the first `place` of them; zeros fill the gap on either side. -/
def placePoint (digits : Text) (place : Int) : Text :=
  if place ≤ 0 then '0' :: '.' :: (List.replicate (-place).toNat '0' ++ digits)
  else if digits.length ≤ place.toNat then
    digits ++ List.replicate (place.toNat - digits.length) '0'
  else digits.take place.toNat ++ '.' :: digits.drop place.toNat

/-- An exponent with its sign, also when it is positive. -/
def signedInt (i : Int) : Text := if 0 ≤ i then '+' :: Text.ofInt i else Text.ofInt i

def toText (d : Decimal) : Text :=
  let digits := ofNat d.coefficient
  let left := d.exponent + digits.length
  let positional := d.exponent ≤ 0 && -6 < left
  let place := if positional then left else 1
  let power := if left = place then [] else 'E' :: signedInt (left - place)
  (if d.negative then ['-'] else []) ++ placePoint digits place ++ power

/-- The sign in front of a number and what follows it. -/
def takeSign : Text → Bool × Text
  | '-' :: rest => (true, rest)
  | '+' :: rest => (false, rest)
  | rest => (false, rest)

/-- A power of ten with an optional sign and at least one digit. -/
def readExponent? (t : Text) : Option Int :=
  let (negative, digits) := takeSign t
  if digits.isEmpty then none
  else (digitsValue? digits).map fun n => if negative then -Int.ofNat n else Int.ofNat n

def ofText? (t : Text) : Option Decimal := do
  let (negative, body) := takeSign (Text.erase '_' (Text.strip t))
  let isMark := fun c => c == 'E' || c == 'e'
  let mantissa := body.takeWhile (!isMark ·)
  let exponent ← match body.dropWhile (!isMark ·) with
    | [] => some 0
    | _ :: power => readExponent? power
  let whole := mantissa.takeWhile (· != '.')
  let fraction := (mantissa.dropWhile (· != '.')).drop 1
  if whole.isEmpty && fraction.isEmpty then none
  else
    let coefficient ← digitsValue? (whole ++ fraction)
    some ⟨negative, coefficient, exponent - fraction.length⟩

end BankStatement.Decimal
