import BankStatement.Proofs.Text.LowerCase
import BankStatement.Proofs.Text.Trimming

/-!
# Lower case, once more

A character is low when lower case leaves it alone, whatever stands beside it. Every character of a
lower case is low, the two sigmas among them, so lower case changes nothing the second time
(`lower_lower`), and a text of low characters is its own lower case (`lower_of_low`).

What stands around a character matters for sigmas only. Blanks are no letters, so a text and the
blanks behind it are lowered apart (`lower_append_blanks`). A cased letter that case does not ignore
ends what a sigma sees of its surroundings, so such letters are lowered one by one, and all that
follows them is told is that it follows a cased letter (`lowerAfter_letters`).

That nothing is shifted twice is a fact about the table. It is decided run by run: what a run shifts
to lies outside of every other run, or between the code points of one that takes every second
(`Table.CaseRun.clears`). There are some hundred runs, so their pairs can be gone through, while the
characters themselves could not.
-/

namespace BankStatement.Text

open Table
open scoped Listed

variable {c e : Char} {t u w : Text}

/-! ## Shifting twice -/

/-- Whether what a run shifts to lies outside of another run: in front of it, behind it, or between
the code points of a stepping one. -/
def Table.CaseRun.clears (run other : CaseRun) : Bool :=
  let low := (Int.ofNat run.first + run.shift).toNat
  let high := (Int.ofNat run.last + run.shift).toNat
  high.blt other.first || other.last.blt low ||
    (Nat.blt 0 low && other.step == 2 && (run.step == 2 || run.first == run.last)
      && (low + other.first) % 2 == 1)

theorem not_shifts_of_clears {run other : CaseRun} (h : run.clears other = true) {n : Nat}
    (hn : run.Shifts n) : ¬other.Shifts (Int.ofNat n + run.shift).toNat := by
  obtain ⟨hfirst, hlast, hstep⟩ := hn
  rintro ⟨hfirst', hlast', hstep'⟩
  simp only [Table.CaseRun.clears, Bool.or_eq_true, Bool.and_eq_true, Nat.blt_eq, beq_iff_eq,
    Int.ofNat_eq_natCast] at h hfirst' hlast' hstep'
  rcases h with (h | h) | ⟨⟨⟨hpos, htwo'⟩, htwo | hone⟩, hodd⟩
  · omega
  · omega
  · -- both runs step by two, and on different code points
    rw [htwo] at hstep
    rw [htwo'] at hstep'
    omega
  · rw [htwo'] at hstep'
    omega

/-- Nothing that a lower case is shifted to is shifted again. -/
theorem shiftIn_shiftIn_lowerRuns (n : Nat) :
    shiftIn lowerRuns (shiftIn lowerRuns n) = shiftIn lowerRuns n := by
  have hclears : (lowerRuns.all fun run => lowerRuns.all run.clears) = true := by decide +kernel
  rcases shiftIn_eq_or lowerRuns n with hkept | ⟨run, hrun, hshifts, heq⟩
  · rw [hkept, hkept]
  · rcases shiftIn_eq_or lowerRuns (shiftIn lowerRuns n) with hkept | ⟨other, hother, h, -⟩
    · exact hkept
    · rw [heq] at h
      have hclear := List.all_eq_true.mp (List.all_eq_true.mp hclears run hrun) other hother
      exact absurd h (not_shifts_of_clears hclear hshifts)

/-! ## Low characters -/

/-- A character that lower case leaves alone. The capital sigma is none, whatever it becomes. -/
def IsLow (c : Char) : Prop := lowerChar c = [c]

instance (c : Char) : Decidable (IsLow c) := inferInstanceAs (Decidable (_ = _))

theorem IsLow.ne_sigma (h : IsLow c) : c ≠ 'Σ' := by
  rintro rfl
  revert h
  decide +kernel

/-- A text of low characters is its own lower case. -/
theorem lowerAfter_of_low (h : ∀ c ∈ t, IsLow c) (afterCased : Bool) :
    lowerAfter afterCased t = t := by
  induction t generalizing afterCased with
  | nil => rfl
  | cons c t ih =>
      have hc := h c List.mem_cons_self
      rw [lowerAfter, if_neg hc.ne_sigma, hc, ih fun d hd => h d (List.mem_cons_of_mem c hd)]
      rfl

theorem lower_of_low (h : ∀ c ∈ t, IsLow c) : lower t = t := lowerAfter_of_low h false

theorem isLow_simpleLower (hc : c ≠ 'İ') : IsLow (simpleLower c) := by
  have hdotted : simpleLower c ≠ 'İ' := by
    intro heq
    have hmem : 'İ' ∈ lowerChar c := by rw [lowerChar_eq hc, heq]; exact List.mem_singleton_self _
    exact hc (LowersTo.eq_of_mem (.inl rfl) hmem (by decide +kernel))
  have hshift : simpleLower c = Char.ofNat (shiftIn lowerRuns c.toNat) := by
    rw [simpleLower, lowerChar_of_ne hc, List.headD_cons]
  by_cases hvalid : (shiftIn lowerRuns c.toNat).isValidChar
  · have hcode : (simpleLower c).toNat = shiftIn lowerRuns c.toNat := by
      rw [hshift, Char.ofNat, dif_pos hvalid]
      rfl
    rw [IsLow, lowerChar_of_ne hdotted, hcode, shiftIn_shiftIn_lowerRuns, ← hshift]
  · rw [hshift, Char.ofNat, dif_neg hvalid]
    decide +kernel

theorem LowersTo.isLow_of_mem (h : LowersTo c u) (he : e ∈ u) : IsLow e := by
  rcases h.eq_or with ⟨-, rfl⟩ | ⟨hc, rfl | ⟨-, rfl⟩⟩
  · have hdotted : ∀ e ∈ lowerChar 'İ', IsLow e := by decide +kernel
    exact hdotted e he
  · rw [List.mem_singleton.mp he]
    exact isLow_simpleLower hc
  · rw [List.mem_singleton.mp he]
    decide +kernel

theorem isLow_of_mem_lower (h : e ∈ lower t) : IsLow e := by
  obtain ⟨c, -, u, hu, he⟩ := exists_of_mem_lower h
  exact hu.isLow_of_mem he

theorem lower_lower (t : Text) : lower (lower t) = lower t :=
  lower_of_low fun _ hc => isLow_of_mem_lower hc

/-! ## What stands behind a text -/

theorem isLow_of_isBlank (h : isBlank c = true) : IsLow c :=
  forall_of_inRanges (by decide +kernel) h

theorem startsCased_of_blanks (h : Blanks t) : startsCased t = false := by
  induction t with
  | nil => rfl
  | cons c t ih =>
      have hcased : inRanges cased c.toNat = false :=
        inRanges_eq_false_of_disjoint (by decide +kernel) (h c List.mem_cons_self)
      rw [startsCased, hcased, ih fun d hd => h d (List.mem_cons_of_mem c hd), ite_self]

theorem startsCased_append_blanks (h : Blanks w) (t : Text) :
    startsCased (t ++ w) = startsCased t := by
  induction t with
  | nil => exact startsCased_of_blanks h
  | cons c t ih => rw [List.cons_append, startsCased, ih, startsCased]

/-- A text is lowered apart from the blanks behind it. A sigma at its end is final whether blanks or
nothing follow. -/
theorem lowerAfter_append_blanks (h : Blanks w) (t : Text) (afterCased : Bool) :
    lowerAfter afterCased (t ++ w) = lowerAfter afterCased t ++ w := by
  induction t generalizing afterCased with
  | nil => exact lowerAfter_of_low (fun c hc => isLow_of_isBlank (h c hc)) afterCased
  | cons c t ih =>
      rw [List.cons_append, lowerAfter, lowerAfter, startsCased_append_blanks h, ih,
        List.append_assoc]

theorem lower_append_blanks (h : Blanks w) (t : Text) : lower (t ++ w) = lower t ++ w :=
  lowerAfter_append_blanks h t false

/-! ## Letters -/

/-- A cased letter that case does not ignore, other than the capital sigma. -/
def IsLetter (c : Char) : Prop :=
  inRanges caseIgnorable c.toNat = false ∧ inRanges cased c.toNat = true ∧ c ≠ 'Σ'

instance (c : Char) : Decidable (IsLetter c) := inferInstanceAs (Decidable (_ ∧ _))

theorem startsCased_letter (h : IsLetter c) (t : Text) : startsCased (c :: t) = true := by
  rw [startsCased, h.1, h.2.1, if_neg Bool.false_ne_true]

theorem lowerAfter_letter (h : IsLetter c) (afterCased : Bool) (t : Text) :
    lowerAfter afterCased (c :: t) = lowerChar c ++ lowerAfter true t := by
  rw [lowerAfter, h.1, h.2.1, if_neg h.2.2, if_neg Bool.false_ne_true]

/-- Letters are lowered apart from what stands around them, and what follows them follows a cased
letter. -/
theorem lowerAfter_letters (h : ∀ c ∈ w, IsLetter c) (hne : w ≠ []) (afterCased : Bool) (t : Text) :
    lowerAfter afterCased (w ++ t) = w.flatMap lowerChar ++ lowerAfter true t := by
  induction w generalizing afterCased with
  | nil => exact absurd rfl hne
  | cons c w ih =>
      rw [List.cons_append, lowerAfter_letter (h c List.mem_cons_self), List.flatMap_cons,
        List.append_assoc]
      cases w with
      | nil => rfl
      | cons d w => rw [ih (fun e he => h e (List.mem_cons_of_mem c he)) (List.cons_ne_nil d w)]

theorem startsCased_letters (h : ∀ c ∈ w, IsLetter c) (hne : w ≠ []) (t : Text) :
    startsCased (w ++ t) = true := by
  obtain ⟨c, w, rfl⟩ := List.exists_cons_of_ne_nil hne
  exact startsCased_letter (h c List.mem_cons_self) (w ++ t)

end BankStatement.Text
