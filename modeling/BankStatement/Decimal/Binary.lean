import BankStatement.Decimal.Basic
import BankStatement.Decimal.Notation

/-!
# Binary floating point numbers

Documents may hold numbers with a fraction or an exponent. They are kept as the nearest binary
number of 53 significant bits, a half going to the even neighbour, and written with the fewest
digits that read back as the same number, the nearest such digits first. All of it is exact
arithmetic on natural numbers.

The written form is positional from `0.0001` up to sixteen digits before the point, with at least
one place behind it; beyond that it is scientific with a signed exponent of at least two digits.
-/

namespace BankStatement

/-- A binary floating point number. A finite one is `(-1)^negative · mantissa · 2^exponent`, with
`mantissa < 2^53` and the exponent as small as the format allows. -/
inductive Binary where
  | finite (negative : Bool) (mantissa : Nat) (exponent : Int)
  | infinite (negative : Bool)
  | notANumber
  deriving DecidableEq, Repr, Inhabited

namespace Binary

def minExponent : Int := -1074

/-- `2 ^ e` as a fraction. -/
def powFraction (base : Nat) (e : Int) : Nat × Nat :=
  if 0 ≤ e then (Nat.pow base e.toNat, 1) else (1, Nat.pow base (-e).toNat)

/-- The quotient of two positive numbers in the format, rounded to nearest. -/
def ofFraction (negative : Bool) (num den : Nat) : Binary :=
  let guess : Int := Int.ofNat num.log2 - Int.ofNat den.log2 - 52
  let mantissaAt : Int → Nat := fun e =>
    let (a, b) := powFraction 2 (-e)
    Decimal.roundDiv (num * a) (den * b)
  let low := max minExponent (guess - 1)
  let limit := Nat.pow 2 53
  let e := if mantissaAt low < limit then low
    else if mantissaAt (low + 1) < limit then low + 1 else low + 2
  if 971 < e then .infinite negative else .finite negative (mantissaAt e) e

/-- The number nearest to `digits · 10 ^ power`. -/
def ofScientific (negative : Bool) (digits : Nat) (power : Int) : Binary :=
  if digits = 0 then .finite negative 0 minExponent
  else
    let magnitude := power + Decimal.digitCount digits
    if 400 < magnitude then .infinite negative
    else if magnitude < -400 then .finite negative 0 minExponent
    else
      let (a, b) := powFraction 10 power
      ofFraction negative (digits * a) b

/-- The whole part, cut toward zero. -/
def truncate (negative : Bool) (mantissa : Nat) (exponent : Int) : Int :=
  let (a, b) := powFraction 2 exponent
  let whole := Int.ofNat (mantissa * a / b)
  if negative then -whole else whole

/-- Position of the decimal point before the first digit of the fraction `num / den`: the least `p`
with `num / den < 10 ^ p`. -/
def pointPosition (num den : Nat) : Int :=
  if den ≤ num then Decimal.digitCount (num / den)
  else
    let s := Decimal.digitCount (den / num)
    if den = num * Decimal.tenTo (s - 1) then 2 - Int.ofNat s else 1 - Int.ofNat s

/-- The fewest digits that read back as `mantissa · 2 ^ exponent`, and the position of the point
before the first of them. Every number of the format is found with at most seventeen digits. -/
def shortestDigits (mantissa : Nat) (exponent : Int) : Nat × Int :=
  -- four times the value and the borders of its rounding interval, over one denominator
  let (a, b) := powFraction 2 (exponent - 2)
  let num := 4 * mantissa * a
  let below := if mantissa = Nat.pow 2 52 ∧ minExponent < exponent then 1 else 2
  let low := (4 * mantissa - below) * a
  let high := (4 * mantissa + 2) * a
  let closed := mantissa % 2 = 0
  let inside := fun (n d : Nat) =>
    if closed then decide (low * d ≤ n * b) && decide (n * b ≤ high * d)
    else decide (low * d < n * b) && decide (n * b < high * d)
  let point := pointPosition num b
  let attempt := fun (count : Nat) =>
    let (s, t) := powFraction 10 (point - count)
    let down := num * t / (b * s)
    let downHit := inside (down * s) t
    let upHit := inside ((down + 1) * s) t
    -- the distance to the lower grid point against half a step
    let rest := 2 * (num * t - down * (b * s))
    let up := b * s < rest || (b * s == rest && down % 2 == 1)
    if downHit && upHit then some (if up then down + 1 else down)
    else if downHit then some down
    else if upHit then some (down + 1)
    else none
  let found := (List.range 17).findSome? fun i => (attempt (i + 1)).map fun d => (d, i + 1)
  match found with
  | some (digits, count) =>
    if Decimal.digitCount digits ≤ count then (digits, point) else (digits / 10, point + 1)
  | none => (mantissa, point)

/-- The digits without trailing zeros, at least one. -/
def trimZeros (digits : Text) : Text :=
  match Text.dropRightWhile (· == '0') digits with
  | [] => ['0']
  | kept => kept

/-- An exponent with its sign and at least two digits. -/
def exponentText (e : Int) : Text :=
  (if e < 0 then '-' else '+') :: Text.padded 2 e.natAbs

def toText : Binary → Text
  | .notANumber => "nan".toList
  | .infinite negative => (if negative then ['-'] else []) ++ "inf".toList
  | .finite negative mantissa exponent =>
    let sign := if negative then ['-'] else []
    if mantissa = 0 then sign ++ "0.0".toList
    else
      let (value, point) := shortestDigits mantissa exponent
      let digits := trimZeros (Text.ofNat value)
      if point ≤ -4 ∨ 16 < point then
        let tail := if digits.length = 1 then [] else '.' :: digits.drop 1
        sign ++ digits.take 1 ++ tail ++ 'e' :: exponentText (point - 1)
      else if Int.ofNat digits.length ≤ point then
        sign ++ Decimal.placePoint digits point ++ ".0".toList
      else sign ++ Decimal.placePoint digits point

end Binary

end BankStatement
