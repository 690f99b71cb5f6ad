import BankStatement.Proofs.Text.Classes
import BankStatement.Text.Digits
import Mathlib.Data.List.Induction
import Mathlib.Tactic.Ring

/-!
# Numbers written in digits

What `ofNat` and `padded` write are decimal digits, and their value is the number
(`digitsValue?_ofNat`, `digitsValue?_padded`). The value of two runs of digits behind each other is
put together from the values of the runs (`digitsValue?_join`).

Dates and amounts are written with these two, and reading them back comes down to the values of runs
of digits. Reading accepts the digits of every script, while only those of ASCII are written, so the
two are not inverse to each other: a number is read back from its text, but a text need not be the
one that its number is written as.

The width of a padded number is a lower bound. It has just this many digits if the number is small
enough for them (`length_padded`), which days, months and years of a date are.
-/

namespace BankStatement.Text

/-- A run of decimal digits. -/
def Digits (t : Text) : Prop := ∀ c ∈ t, isDecimalDigit c = true

instance (t : Text) : Decidable (Digits t) :=
  List.decidableBAll (isDecimalDigit · = true) t

theorem digits_append {s t : Text} : Digits (s ++ t) ↔ Digits s ∧ Digits t := List.forall_mem_append

/-- A character that is no digit does not stand in a run of digits. -/
theorem Digits.notMem {t : Text} (h : Digits t) {c : Char} (hc : isDecimalDigit c = false) :
    c ∉ t :=
  fun hmem => ne_of_class (h c hmem) hc rfl

theorem digitValue?_digitChar {d : Nat} (h : d < 10) : digitValue? (Nat.digitChar d) = some d := by
  decide +revert +kernel

theorem isDecimalDigit_digitChar {d : Nat} (h : d < 10) :
    isDecimalDigit (Nat.digitChar d) = true := by
  rw [← digitValue?_isSome, digitValue?_digitChar h]
  rfl

/-! ## Values -/

/-- A run of digits has a value. -/
theorem exists_digitsValue? {t : Text} (h : Digits t) : ∃ n, digitsValue? t = some n := by
  induction t using List.reverseRecOn with
  | nil => exact ⟨0, rfl⟩
  | append_singleton t c ih =>
      obtain ⟨ht, hc⟩ := digits_append.mp h
      obtain ⟨n, hn⟩ := ih ht
      obtain ⟨d, hd⟩ := Option.isSome_iff_exists.mp
        ((digitValue?_isSome c).trans (hc c List.mem_cons_self))
      exact ⟨10 * n + d, by rw [digitsValue_append, hn, hd]; rfl⟩

theorem digitsValue?_join {s t : Text} {m n : Nat} (hs : digitsValue? s = some m)
    (ht : digitsValue? t = some n) : digitsValue? (s ++ t) = some (m * 10 ^ t.length + n) := by
  induction t using List.reverseRecOn generalizing n with
  | nil =>
      cases ht
      simpa using hs
  | append_singleton t c ih =>
      rw [digitsValue_append] at ht
      obtain ⟨n', hn', hc⟩ := Option.bind_eq_some_iff.mp ht
      obtain ⟨d, hd, rfl⟩ := Option.map_eq_some_iff.mp hc
      rw [← List.append_assoc, digitsValue_append, ih hn', hd, List.length_append,
        List.length_singleton, Nat.pow_succ]
      simp only [Option.bind_some, Option.map_some, Option.some.injEq]
      ring

theorem digitsValue?_lt {t : Text} {n : Nat} (h : digitsValue? t = some n) : n < 10 ^ t.length := by
  induction t using List.reverseRecOn generalizing n with
  | nil => cases h; exact Nat.one_pos
  | append_singleton t c ih =>
      rw [digitsValue_append] at h
      obtain ⟨m, hm, hc⟩ := Option.bind_eq_some_iff.mp h
      obtain ⟨d, hd, rfl⟩ := Option.map_eq_some_iff.mp hc
      have hdigit := digitValue_lt hd
      have hm := ih hm
      rw [List.length_append, List.length_singleton, Nat.pow_succ]
      omega

/-! ## Written numbers -/

theorem digits_ofNat (n : Nat) : Digits (ofNat n) := by
  induction n using Nat.strongRecOn with
  | ind n ih =>
      intro c hc
      rw [ofNat] at hc
      by_cases hn : n < 10
      · rw [Nat.toDigits_of_lt_base hn, List.mem_singleton] at hc
        exact hc ▸ isDecimalDigit_digitChar hn
      · rw [Nat.toDigits_of_base_le (by decide) (Nat.le_of_not_lt hn), List.mem_append,
          List.mem_singleton] at hc
        rcases hc with hc | rfl
        · exact ih (n / 10) (by omega) c hc
        · exact isDecimalDigit_digitChar (by omega)

theorem digitsValue?_ofNat (n : Nat) : digitsValue? (ofNat n) = some n := by
  induction n using Nat.strongRecOn with
  | ind n ih =>
      by_cases hn : n < 10
      · rw [ofNat, Nat.toDigits_of_lt_base hn, digitsValue?, List.foldl_cons, List.foldl_nil,
          digitValue?_digitChar hn]
        simp
      · rw [ofNat, Nat.toDigits_of_base_le (by decide) (Nat.le_of_not_lt hn), digitsValue_append,
          ← ofNat, ih (n / 10) (by omega), digitValue?_digitChar (by omega)]
        simp only [Option.bind_some, Option.map_some, Option.some.injEq]
        omega

theorem digits_zeros (k : Nat) : Digits (List.replicate k '0') := by
  intro c hc
  rw [List.eq_of_mem_replicate hc]
  decide

theorem digitsValue?_zeros (k : Nat) : digitsValue? (List.replicate k '0') = some 0 := by
  induction k with
  | zero => rfl
  | succ k ih =>
      rw [List.replicate_succ', digitsValue_append, ih]
      rfl

theorem digits_padded (width n : Nat) : Digits (padded width n) :=
  digits_append.mpr ⟨digits_zeros _, digits_ofNat n⟩

theorem digitsValue?_padded (width n : Nat) : digitsValue? (padded width n) = some n := by
  rw [padded, digitsValue?_join (digitsValue?_zeros _) (digitsValue?_ofNat n), Nat.zero_mul,
    Nat.zero_add]

theorem length_padded {width n : Nat} (hwidth : 0 < width) (h : n < 10 ^ width) :
    (padded width n).length = width := by
  have hle : (ofNat n).length ≤ width := (Nat.length_toDigits_le_iff (by decide) hwidth).mpr h
  rw [padded, List.length_append, List.length_replicate]
  omega

end BankStatement.Text
