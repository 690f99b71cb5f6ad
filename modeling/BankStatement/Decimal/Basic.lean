/-!
# Decimal numbers

Amounts are decimal floating point numbers: a sign, a coefficient and a power of ten. Scale matters
(`5.00` is written with its two zeros) and so does the sign of zero, so the representation is kept
as it is. `canonical` forgets both: two numbers are numerically equal when their canonical forms are
the same, which is how keys that hold amounts are compared.

Results of arithmetic hold at most 28 digits. A longer coefficient is rounded, a half going to the
even neighbour. Multiplying keeps the sign of a zero; negating or taking the absolute value of a
zero gives the positive zero. Exponents have no bounds: a result is never too great or too small to
be held, also not one of more than a million digits, which other decimal arithmetics refuse.

Rounding leaves short coefficients alone (`round_of_le`), so amounts of up to 28 digits keep the
spelling they were read with.
-/

namespace BankStatement

/-- The number `(-1)^negative · coefficient · 10^exponent`. -/
structure Decimal where
  negative : Bool
  coefficient : Nat
  exponent : Int
  deriving DecidableEq, Repr, Inhabited

namespace Decimal

def precision : Nat := 28

def tenTo (n : Nat) : Nat := Nat.pow 10 n

theorem tenTo_succ (n : Nat) : tenTo (n + 1) = 10 * tenTo n := by
  simp only [tenTo, Nat.pow_eq, Nat.pow_succ, Nat.mul_comm]

/-- The number of decimal digits; zero has one. -/
def digitCount (n : Nat) : Nat := (Nat.toDigits 10 n).length

def zero : Decimal := ⟨false, 0, 0⟩

instance : OfNat Decimal 0 := ⟨zero⟩

def ofInt (i : Int) : Decimal := ⟨decide (i < 0), i.natAbs, 0⟩

/-- Numerically zero, whatever sign and scale. -/
def isZero (d : Decimal) : Bool := d.coefficient == 0

/-- The quotient rounded to the nearest whole number, a half to the even neighbour. -/
def roundDiv (num den : Nat) : Nat :=
  let q := num / den
  let r := num % den
  if 2 * r > den ∨ (2 * r = den ∧ q % 2 = 1) then q + 1 else q

/-- The number with at most `precision` digits. Rounding up can carry into one digit more, which is
then a zero and is dropped. -/
def round (d : Decimal) : Decimal :=
  let surplus := digitCount d.coefficient - precision
  if surplus = 0 then d
  else
    let c := roundDiv d.coefficient (tenTo surplus)
    if digitCount c ≤ precision then { d with coefficient := c, exponent := d.exponent + surplus }
    else { d with coefficient := c / 10, exponent := d.exponent + surplus + 1 }

theorem round_of_le {d : Decimal} (h : digitCount d.coefficient ≤ precision) : round d = d := by
  simp [round, Nat.sub_eq_zero_of_le h]

/-- The rounded product; the sign of a zero follows the signs of the factors. -/
def mul (a b : Decimal) : Decimal :=
  round ⟨a.negative != b.negative, a.coefficient * b.coefficient, a.exponent + b.exponent⟩

/-- The coefficient with its sign, at an exponent not above the number's own. -/
def scaledTo (exponent : Int) (d : Decimal) : Int :=
  let magnitude : Int := Int.ofNat (d.coefficient * tenTo (d.exponent - exponent).toNat)
  if d.negative then -magnitude else magnitude

/-- The rounded sum, at the smaller of the two exponents. A zero sum is positive unless both terms
are negative zeros. -/
def add (a b : Decimal) : Decimal :=
  let exponent := min a.exponent b.exponent
  let sum := scaledTo exponent a + scaledTo exponent b
  let negative := if sum = 0 then a.negative && b.negative else decide (sum < 0)
  round ⟨negative, sum.natAbs, exponent⟩

def abs (d : Decimal) : Decimal := round { d with negative := false }

/-- The rounded number of opposite sign; zero stays positive. -/
def neg (d : Decimal) : Decimal := round { d with negative := !d.negative && d.coefficient != 0 }

instance : Mul Decimal := ⟨mul⟩
instance : Add Decimal := ⟨add⟩
instance : Neg Decimal := ⟨neg⟩

/-- Moves trailing zeros of a coefficient into the exponent, at most `fuel` of them. -/
def stripZeros : (fuel : Nat) → Decimal → Decimal
  | 0, d => d
  | fuel + 1, d =>
    if d.coefficient % 10 = 0 then
      stripZeros fuel { d with coefficient := d.coefficient / 10, exponent := d.exponent + 1 }
    else d

/-- The one representative of all numbers of the same value. -/
def canonical (d : Decimal) : Decimal :=
  if d.coefficient = 0 then zero else stripZeros (digitCount d.coefficient) d

end Decimal

end BankStatement
