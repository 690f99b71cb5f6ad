import BankStatement.Decimal.Basic

/-!
# Rounding

A rounded number has at most `precision` digits (`digitCount_round`), so rounding it again, or
multiplying it by one, changes nothing. Only zero is rounded to zero (`isZero_round`).

Rounding divides by a power of ten and goes to the nearer neighbour, of two as near to the even one.
The quotient of a number with too many digits has just as many as it may have, and going up can
carry into one digit more; then the last one is a zero and is dropped. Both are in
`digitCount_round`.

What is stated here is about coefficients and exponents. That rounding keeps the value of a number
which can be held is in `Proofs.Decimal.Value`.
-/

namespace BankStatement.Decimal

theorem digitCount_le_iff {n k : Nat} (hk : 0 < k) : digitCount n ≤ k ↔ n < tenTo k :=
  Nat.length_toDigits_le_iff (by decide) hk

theorem roundDiv_le (num den : Nat) : roundDiv num den ≤ num / den + 1 := by
  simp only [roundDiv]
  split <;> omega

theorem tenTo_add (m n : Nat) : tenTo (m + n) = tenTo n * tenTo m := by
  rw [tenTo, tenTo, tenTo, Nat.pow_eq, Nat.pow_eq, Nat.pow_eq, Nat.pow_add, Nat.mul_comm]

theorem digitCount_round (d : Decimal) : digitCount (round d).coefficient ≤ precision := by
  have hprecision : 0 < precision := by decide
  unfold round
  generalize hs : digitCount d.coefficient - precision = surplus
  simp only
  split
  next h0 => omega
  next h0 =>
    split
    next hc => exact hc
    next hc =>
      -- rounding up has carried: the quotient is the first number with one digit more
      have hcount : digitCount d.coefficient ≤ precision + surplus := by omega
      have hlt := (digitCount_le_iff (by omega)).mp hcount
      rw [tenTo_add] at hlt
      have hquot : d.coefficient / tenTo surplus < tenTo precision := Nat.div_lt_of_lt_mul hlt
      have hround := roundDiv_le d.coefficient (tenTo surplus)
      rw [digitCount_le_iff hprecision]
      generalize roundDiv d.coefficient (tenTo surplus) = c at *
      have hpos : 1 < tenTo precision := by decide
      show c / 10 < tenTo precision
      omega

theorem round_round (d : Decimal) : round (round d) = round d := round_of_le (digitCount_round d)

theorem le_roundDiv (num den : Nat) : num / den ≤ roundDiv num den := by
  simp only [roundDiv]
  split <;> omega

/-- A number is not rounded to zero: it keeps its leading digits, as there is no smallest exponent.
-/
theorem isZero_round (d : Decimal) : (round d).isZero = d.isZero := by
  unfold round
  generalize hs : digitCount d.coefficient - precision = surplus
  simp only
  split
  next h0 => rfl
  next h0 =>
    have hbig : tenTo (27 + surplus) ≤ d.coefficient := by
      refine Nat.le_of_not_lt fun hlt => ?_
      have hcount := (digitCount_le_iff (by omega)).mpr hlt
      have hprecision : precision = 28 := rfl
      omega
    rw [tenTo_add] at hbig
    have hpos : 0 < tenTo surplus := by
      rw [tenTo, Nat.pow_eq]
      exact Nat.pow_pos (by decide)
    have hquot : tenTo 27 ≤ d.coefficient / tenTo surplus :=
      (Nat.le_div_iff_mul_le hpos).mpr (by rwa [Nat.mul_comm] at hbig)
    have hround := le_roundDiv d.coefficient (tenTo surplus)
    have hten : 10 ≤ tenTo 27 := by decide
    have hne : d.coefficient ≠ 0 := by
      rintro h
      rw [h, Nat.zero_div] at hquot
      omega
    have hzero : d.isZero = false := by simpa [isZero] using hne
    rw [hzero]
    generalize roundDiv d.coefficient (tenTo surplus) = c at hround
    split
    · simpa [isZero] using (by omega : c ≠ 0)
    · simpa [isZero] using (by omega : 10 ≤ c)

theorem roundDiv_mul {n k : Nat} (h : 0 < k) : roundDiv (n * k) k = n := by
  simp only [roundDiv, Nat.mul_mod_left, Nat.mul_div_cancel n h]
  rw [if_neg (by omega)]

/-- Zeros that are too many are dropped, and the exponent grows by their number. So the value is
kept, which rounding does not do in general. -/
theorem round_shift {negative : Bool} {c k : Nat} {e : Int} (hc : digitCount c ≤ precision)
    (h : digitCount (c * tenTo k) = precision + k) :
    round ⟨negative, c * tenTo k, e⟩ = ⟨negative, c, e + k⟩ := by
  have hpos : 0 < tenTo k := Nat.pow_pos (by decide)
  unfold round
  simp only [h, Nat.add_sub_cancel_left, roundDiv_mul hpos, hc, if_true]
  split
  next hk =>
    subst hk
    rw [tenTo, Nat.pow_eq, Nat.pow_zero, Nat.mul_one, Int.natCast_zero, Int.add_zero]
  next => rfl

/-- The product with one or minus one is rounded and changes at most the sign. -/
theorem mul_unit (d : Decimal) (negative : Bool) :
    d * ofInt (if negative then -1 else 1)
      = round { d with negative := d.negative != negative } := by
  show round ⟨d.negative != _, d.coefficient * _, d.exponent + 0⟩ = _
  cases negative <;> simp [ofInt]

theorem round_mul_one (d : Decimal) : round d * ofInt 1 = round d := by
  have h := mul_unit (round d) false
  simp only [Bool.bne_false] at h
  exact h.trans (round_round d)

end BankStatement.Decimal
