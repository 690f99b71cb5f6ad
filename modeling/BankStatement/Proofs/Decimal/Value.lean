import BankStatement.Proofs.Decimal.Rounding
import Mathlib.Algebra.Order.Field.Rat
import Mathlib.Algebra.Order.Ring.Abs
import Mathlib.Tactic.Ring

/-!
# Numeric value

A decimal number stands for a rational one (`value`). Stripping zeros keeps the value and ends at a
coefficient that ten does not divide; sign, coefficient and exponent of such a number can be told
from its value (`eq_of_value_eq`). So two numbers have the same canonical representative exactly
when they have the same value (`canonical_eq_iff`), and zero alone has two signs.

Rounding keeps a value that some number of few enough digits has (`value_round`).

Decimal numbers are compared by their canonical representatives, since that can be computed without
fractions. What a comparison means is said with rational numbers, so that statements about
duplicates and amounts do not mention exponents: 1.50 and 1.5 are different numbers of one value.

`Fits` is a property of a value and not of one of the numbers that have it. A number with trailing
zeros may have more digits than results hold although its value fits, and rounding it is exact.
-/

namespace BankStatement.Decimal

/-- The rational number that a decimal number stands for. -/
def value (d : Decimal) : ℚ := (if d.negative then -1 else 1) * d.coefficient * 10 ^ d.exponent

/-! ## Stripping zeros -/

theorem value_stripZeros (fuel : Nat) (d : Decimal) : (stripZeros fuel d).value = d.value := by
  induction fuel generalizing d with
  | zero => rfl
  | succ fuel ih =>
      unfold stripZeros
      split
      next h =>
        have hcoefficient : (d.coefficient : ℚ) = (d.coefficient / 10 : ℕ) * 10 := by
          exact_mod_cast (Nat.div_mul_cancel (Nat.dvd_of_mod_eq_zero h)).symm
        rw [ih, value, value, hcoefficient, zpow_add_one₀ (by decide)]
        ring
      next => rfl

theorem stripZeros_mod_ten {fuel : Nat} {d : Decimal} (h : d.coefficient ≠ 0)
    (hlt : d.coefficient < tenTo fuel) : (stripZeros fuel d).coefficient % 10 ≠ 0 := by
  induction fuel generalizing d with
  | zero =>
      have hone : tenTo 0 = 1 := rfl
      omega
  | succ fuel ih =>
      rw [tenTo_succ] at hlt
      unfold stripZeros
      split
      · exact ih (d := { d with coefficient := d.coefficient / 10, exponent := d.exponent + 1 })
          (by simp only; omega) (by simp only; omega)
      · assumption

theorem value_canonical (d : Decimal) : d.canonical.value = d.value := by
  unfold canonical
  split
  next h => simp [value, h, zero]
  next => exact value_stripZeros ..

theorem canonical_mod_ten {d : Decimal} (h : d.coefficient ≠ 0) :
    d.canonical.coefficient % 10 ≠ 0 := by
  have hcount : 0 < digitCount d.coefficient := Nat.length_toDigits_pos
  rw [canonical, if_neg h]
  exact stripZeros_mod_ten h ((digitCount_le_iff hcount).mp (Nat.le_refl _))

/-! ## One representative for each value -/

theorem value_eq_zero_iff {d : Decimal} : d.value = 0 ↔ d.coefficient = 0 := by
  have hpow : (10 : ℚ) ^ d.exponent ≠ 0 := zpow_ne_zero _ (by decide)
  unfold value
  split <;> simp [hpow]

theorem value_neg_iff {d : Decimal} (h : d.coefficient ≠ 0) :
    d.value < 0 ↔ d.negative = true := by
  have hpow : (0 : ℚ) < 10 ^ d.exponent := zpow_pos (by decide) _
  have hcoefficient : (0 : ℚ) < d.coefficient := by exact_mod_cast Nat.pos_of_ne_zero h
  have hpos : (0 : ℚ) < d.coefficient * 10 ^ d.exponent := mul_pos hcoefficient hpow
  cases hsign : d.negative with
  | true => simpa [value, hsign] using hpos
  | false => simpa [value, hsign] using le_of_lt hpos

/-- Of two numbers of one value, the one with the smaller exponent has the larger coefficient. -/
theorem coefficient_eq {c c' : Nat} {e : Int} {n : Nat}
    (h : (c : ℚ) * 10 ^ e = c' * 10 ^ (e + n)) : c = c' * 10 ^ n := by
  have hpow : (10 : ℚ) ^ e ≠ 0 := zpow_ne_zero _ (by decide)
  rw [zpow_add₀ (by decide), zpow_natCast, mul_comm (10 ^ e : ℚ), ← mul_assoc] at h
  exact_mod_cast mul_right_cancel₀ hpow h

theorem exponent_le {c c' : Nat} {e e' : Int} (hc : c % 10 ≠ 0)
    (h : (c : ℚ) * 10 ^ e = c' * 10 ^ e') : e' ≤ e := by
  by_contra hlt
  obtain ⟨n, rfl⟩ : ∃ n : Nat, e' = e + (n + 1 : Nat) := ⟨(e' - e - 1).toNat, by omega⟩
  have hmul := coefficient_eq h
  rw [Nat.pow_succ, ← Nat.mul_assoc] at hmul
  omega

/-- A number whose coefficient ten does not divide is told by its value: its exponent is the largest
with which the value can be written, and the coefficient follows. -/
theorem eq_of_value_eq {a b : Decimal} (ha : a.coefficient % 10 ≠ 0) (hb : b.coefficient % 10 ≠ 0)
    (h : a.value = b.value) : a = b := by
  have hnegative : a.negative = b.negative := by
    rw [Bool.eq_iff_iff, ← value_neg_iff (by omega), ← value_neg_iff (by omega), h]
  have hmagnitude : (a.coefficient : ℚ) * 10 ^ a.exponent = b.coefficient * 10 ^ b.exponent := by
    rw [value, value, hnegative] at h
    split at h <;> simpa using h
  have hexponent : a.exponent = b.exponent :=
    Int.le_antisymm (exponent_le hb hmagnitude.symm) (exponent_le ha hmagnitude)
  have hcoefficient : a.coefficient = b.coefficient := by
    rw [hexponent] at hmagnitude
    simpa using coefficient_eq (n := 0) (by simpa using hmagnitude)
  cases a
  cases b
  simp only at hnegative hcoefficient hexponent
  rw [hnegative, hcoefficient, hexponent]

/-- Two numbers have the same canonical representative exactly when they have the same value. -/
theorem canonical_eq_iff {a b : Decimal} : a.canonical = b.canonical ↔ a.value = b.value := by
  constructor
  · intro h
    rw [← value_canonical a, h, value_canonical]
  · intro h
    by_cases hzero : a.coefficient = 0
    · have hzero' : b.coefficient = 0 := by
        rw [← value_eq_zero_iff, ← h, value_eq_zero_iff, hzero]
      rw [canonical, canonical, if_pos hzero, if_pos hzero']
    · have hzero' : b.coefficient ≠ 0 := by
        rwa [ne_eq, ← value_eq_zero_iff, ← h, value_eq_zero_iff]
      refine eq_of_value_eq (canonical_mod_ten hzero) (canonical_mod_ten hzero') ?_
      rw [value_canonical, value_canonical, h]

/-! ## Rounding -/

/-- Some number of this value has no more digits than results hold. -/
def Fits (q : ℚ) : Prop := ∃ b : Decimal, digitCount b.coefficient ≤ precision ∧ b.value = q

theorem abs_value (d : Decimal) : |d.value| = d.coefficient * 10 ^ d.exponent := by
  have hpow : (0 : ℚ) < 10 ^ d.exponent := zpow_pos (by decide) _
  have hmagnitude : |(d.coefficient : ℚ) * 10 ^ d.exponent| = d.coefficient * 10 ^ d.exponent :=
    abs_of_nonneg (mul_nonneg (Nat.cast_nonneg _) hpow.le)
  unfold value
  split
  · rw [neg_one_mul, neg_mul, abs_neg, hmagnitude]
  · rw [one_mul, hmagnitude]

theorem value_shift (negative : Bool) (c k : Nat) (e : Int) :
    value ⟨negative, c * tenTo k, e⟩ = value ⟨negative, c, e + k⟩ := by
  simp only [value, tenTo, Nat.pow_eq, Nat.cast_mul, Nat.cast_pow, Nat.cast_ofNat]
  rw [zpow_add₀ (by decide), zpow_natCast]
  ring

/-- Digits that a number could do without are zeros. -/
theorem exists_coefficient_eq {d : Decimal} {k : Nat} (hfits : Fits d.value)
    (h : digitCount d.coefficient = precision + k) : ∃ c, d.coefficient = c * tenTo k := by
  obtain ⟨b, hb, hvalue⟩ := hfits
  have hsmall : b.coefficient < tenTo precision := (digitCount_le_iff (by decide)).mp hb
  have hlarge : tenTo (27 + k) ≤ d.coefficient := by
    refine Nat.le_of_not_lt fun hlt => ?_
    have hcount := (digitCount_le_iff (by omega)).mpr hlt
    have hprecision : precision = 28 := rfl
    omega
  have hmagnitude : (b.coefficient : ℚ) * 10 ^ b.exponent = d.coefficient * 10 ^ d.exponent := by
    rw [← abs_value, ← abs_value, hvalue]
  rcases Nat.eq_zero_or_pos k with rfl | hk
  · exact ⟨d.coefficient, (Nat.mul_one _).symm⟩
  have hgap {n : Nat} (hn : n < k) : tenTo (precision + n) ≤ tenTo (27 + k) := by
    refine Nat.pow_le_pow_right (by decide) ?_
    have hprecision : precision = 28 := rfl
    omega
  rcases Int.le_total b.exponent d.exponent with hle | hle
  · -- at a smaller exponent the coefficient would be larger still
    obtain ⟨n, hn⟩ := Int.le.dest hle
    rw [← hn] at hmagnitude
    have hpos : 0 < 10 ^ n := Nat.pow_pos (by decide)
    have hdle : d.coefficient ≤ b.coefficient :=
      coefficient_eq hmagnitude ▸ Nat.le_mul_of_pos_right _ hpos
    have hmono : tenTo precision ≤ tenTo (27 + k) := hgap hk
    omega
  · obtain ⟨n, hn⟩ := Int.le.dest hle
    rw [← hn] at hmagnitude
    have heq : d.coefficient = b.coefficient * tenTo n := coefficient_eq hmagnitude.symm
    have hkn : k ≤ n := by
      refine Nat.le_of_not_lt fun hlt => ?_
      have hbound : d.coefficient < tenTo (precision + n) := by
        rw [tenTo_add, heq, Nat.mul_comm]
        exact Nat.mul_lt_mul_of_pos_left hsmall (Nat.pow_pos (by decide))
      have hmono := hgap hlt
      omega
    obtain ⟨j, rfl⟩ := Nat.exists_eq_add_of_le hkn
    exact ⟨b.coefficient * tenTo j, by rw [heq, Nat.add_comm, tenTo_add, Nat.mul_right_comm,
      Nat.mul_assoc]⟩

/-- Rounding keeps a value that can be held. The digits that are dropped are zeros, so it makes no
difference which way is rounded. -/
theorem value_round {d : Decimal} (h : Fits d.value) : d.round.value = d.value := by
  obtain ⟨negative, coefficient, exponent⟩ := d
  rcases Nat.le_total (digitCount coefficient) precision with hle | hle
  · rw [round_of_le hle]
  · obtain ⟨k, hk⟩ := Nat.exists_eq_add_of_le hle
    obtain ⟨c, rfl⟩ := exists_coefficient_eq h hk
    have hcount : digitCount c ≤ precision := by
      have hlt := (digitCount_le_iff (Nat.add_pos_left (by decide) k)).mp (Nat.le_of_eq hk)
      rw [tenTo_add, Nat.mul_comm] at hlt
      exact (digitCount_le_iff (by decide)).mpr (Nat.lt_of_mul_lt_mul_left hlt)
    rw [round_shift hcount hk, value_shift]

/-- A product that can be held is exact. -/
theorem value_mul_ofInt {d : Decimal} {i : Int} (h : Fits (i * d.value)) :
    (d * ofInt i).value = i * d.value := by
  have hsign : (i : ℚ) = (if (ofInt i).negative then -1 else 1) * (ofInt i).coefficient := by
    rcases lt_or_ge i 0 with hi | hi
    · simp [ofInt, hi, abs_of_neg]
    · simp [ofInt, Int.not_lt.mpr hi, abs_of_nonneg hi]
  have hproduct : value ⟨d.negative != (ofInt i).negative, d.coefficient * (ofInt i).coefficient,
      d.exponent + 0⟩ = i * d.value := by
    rw [hsign, value, value, Nat.cast_mul, Int.add_zero]
    cases d.negative <;> cases (ofInt i).negative <;> simp <;> ring
  show (round ⟨_, _, d.exponent + 0⟩).value = _
  rw [← hproduct] at h ⊢
  exact value_round h

end BankStatement.Decimal
