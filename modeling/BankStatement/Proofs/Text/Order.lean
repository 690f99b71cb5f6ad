import BankStatement.Text.Basic
import Mathlib.Data.List.Nodup
import Mathlib.Order.Defs.LinearOrder
import Mathlib.Data.Char

/-!
# The order of texts

Texts are ordered like the words of a dictionary, so any two of them can be compared (`le_total`)
and comparing goes through (`le_trans`). A list that is sorted by such an order starts with the
element that no other comes before, and of several the one that was given first
(`firstIn_of_head?_mergeSort`), also when only some of the sorted elements are looked at. Elements
with different texts can be sorted in one way only (`eq_of_sorted_perm`).

Aliases are sorted by their length, securities and files by their names, and what is then looked up
is the first that fits. `FirstIn` says which one that is without sorting. It does not depend on how
the list is sorted, but it does depend on sorting being stable: among elements that the order does
not tell apart, the one given first comes first.
-/

namespace BankStatement

namespace Text

theorem le_total (s t : Text) : (le s t || le t s) = true := by
  induction s generalizing t with
  | nil => rfl
  | cons a s ih =>
      cases t with
      | nil => rfl
      | cons b t =>
          rcases lt_trichotomy a b with hlt | heq | hgt
          · simp [le, hlt]
          · subst heq
            simpa [le] using ih t
          · simp [le, hgt]

theorem le_trans (s t u : Text) (hst : le s t = true) (htu : le t u = true) : le s u = true := by
  induction s generalizing t u with
  | nil => rfl
  | cons a s ih =>
      cases t with
      | nil => cases hst
      | cons b t =>
          cases u with
          | nil => cases htu
          | cons c u =>
              simp only [le, Bool.or_eq_true, Bool.and_eq_true, decide_eq_true_eq, beq_iff_eq]
                at hst htu ⊢
              rcases hst with hab | ⟨rfl, hst⟩
              · rcases htu with hbc | ⟨rfl, -⟩
                · exact .inl (lt_trans hab hbc)
                · exact .inl hab
              · rcases htu with hbc | ⟨rfl, htu⟩
                · exact .inl hbc
                · exact .inr ⟨rfl, ih t u hst htu⟩

theorem le_antisymm {s t : Text} (hst : le s t = true) (hts : le t s = true) : s = t := by
  induction s generalizing t with
  | nil =>
      cases t with
      | nil => rfl
      | cons b t => cases hts
  | cons a s ih =>
      cases t with
      | nil => cases hst
      | cons b t =>
          simp only [le, Bool.or_eq_true, Bool.and_eq_true, decide_eq_true_eq, beq_iff_eq]
            at hst hts
          rcases hst with hab | ⟨rfl, hst⟩
          · rcases hts with hba | ⟨rfl, -⟩
            · exact absurd hba (lt_asymm hab)
            · exact absurd hab (lt_irrefl b)
          · rcases hts with haa | ⟨-, hts⟩
            · exact absurd haa (lt_irrefl a)
            · rw [ih hst hts]

end Text

/-! ## Sorting by a text -/

section SortedByText

variable {α : Type} {key : α → Text} {l l' : List α}

/-- Elements with different texts can be sorted by these in one way only. -/
theorem eq_of_sorted_perm (hperm : l.Perm l') (hkeys : (l.map key).Nodup)
    (hl : l.Pairwise fun a b => Text.le (key a) (key b) = true)
    (hl' : l'.Pairwise fun a b => Text.le (key a) (key b) = true) : l = l' := by
  refine List.Perm.eq_of_pairwise ?_ hl hl' hperm
  intro a b ha hb hab hba
  exact List.inj_on_of_nodup_map hkeys ha (hperm.mem_iff.mpr hb) (Text.le_antisymm hab hba)

theorem pairwise_mergeSort_text (l : List α) :
    (l.mergeSort fun a b => Text.le (key a) (key b)).Pairwise
      fun a b => Text.le (key a) (key b) = true :=
  List.pairwise_mergeSort (fun a b c => Text.le_trans (key a) (key b) (key c))
    (fun a b => Text.le_total (key a) (key b)) l

/-- Sorting forgets the order in which elements with different texts were given. -/
theorem mergeSort_congr (hperm : l.Perm l') (hkeys : (l.map key).Nodup) :
    l.mergeSort (fun a b => Text.le (key a) (key b))
      = l'.mergeSort fun a b => Text.le (key a) (key b) := by
  have hsorted : (l.mergeSort fun a b => Text.le (key a) (key b)).Perm l := List.mergeSort_perm ..
  have hsorted' : (l'.mergeSort fun a b => Text.le (key a) (key b)).Perm l' :=
    List.mergeSort_perm ..
  refine eq_of_sorted_perm ((hsorted.trans hperm).trans hsorted'.symm) ?_
    (pairwise_mergeSort_text l) (pairwise_mergeSort_text l')
  exact (hsorted.map key).nodup_iff.mpr hkeys

end SortedByText

/-! ## The first of some elements -/

variable {α : Type} {le : α → α → Bool} {p : α → Bool} {a : α} {l : List α}

/-- The first of some elements in an order: no other comes before it, and those level with it were
given behind it. -/
def FirstIn (le : α → α → Bool) (a : α) (l : List α) : Prop :=
  ∃ before after, l = before ++ a :: after ∧ (∀ b ∈ before, le b a = false)
    ∧ ∀ b ∈ after, le a b = true

/-- The first element of a sorted list that is looked at is the first in the order of those that
are. The elements may be looked at before or after they are sorted. -/
theorem firstIn_of_head?_mergeSort (htrans : ∀ a b c, le a b = true → le b c = true → le a c = true)
    (htotal : ∀ a b, (le a b || le b a) = true) (h : ((l.mergeSort le).filter p).head? = some a) :
    FirstIn le a (l.filter p) := by
  induction l generalizing a with
  | nil => simp at h
  | cons x l ih =>
      -- sorting puts the new element in front of those that are level with it
      obtain ⟨l₁, l₂, hcons, hrest, hfront⟩ := List.mergeSort_cons htrans htotal x l
      rw [hcons, List.filter_append] at h
      rw [hrest, List.filter_append] at ih
      by_cases hx : p x = true
      · rw [List.filter_cons_of_pos hx]
        rw [List.filter_cons_of_pos hx] at h
        cases hfirst : l₁.filter p with
        | nil =>
            rw [hfirst] at h
            cases h
            refine ⟨[], l.filter p, rfl, by simp, fun b hb => ?_⟩
            have hsorted := List.pairwise_mergeSort htrans htotal (x :: l)
            rw [hcons, List.pairwise_append] at hsorted
            have hmem : b ∈ l₁.filter p ++ l₂.filter p := by
              rw [← List.filter_append, ← hrest, List.mem_filter, List.mem_mergeSort]
              exact List.mem_filter.mp hb
            rw [hfirst, List.nil_append] at hmem
            exact (List.pairwise_cons.mp hsorted.2.1).1 b (List.mem_filter.mp hmem).1
        | cons b more =>
            rw [hfirst] at h ih
            have hab : b = a := Option.some.inj h
            subst hab
            obtain ⟨before, after, hl, hbefore, hafter⟩ := ih rfl
            refine ⟨x :: before, after, congrArg (x :: ·) hl, ?_, hafter⟩
            have hb : b ∈ l₁ := (List.mem_filter.mp (hfirst ▸ List.mem_cons_self)).1
            refine List.forall_mem_cons.mpr ⟨?_, hbefore⟩
            simpa using hfront b hb
      · rw [List.filter_cons_of_neg hx]
        rw [List.filter_cons_of_neg hx] at h
        exact ih h

/-- There is only one first element. -/
theorem FirstIn.unique {b : α} (ha : FirstIn le a l) (hb : FirstIn le b l) : a = b := by
  obtain ⟨before, after, hl, hbefore, hafter⟩ := ha
  obtain ⟨before', after', hl', hbefore', hafter'⟩ := hb
  rw [hl, List.append_eq_append_iff] at hl'
  rcases hl' with ⟨_ | ⟨c, mid⟩, hmid, hrest⟩ | ⟨_ | ⟨c, mid⟩, hmid, hrest⟩
  · exact (List.cons.inj hrest).1
  · -- the one that stands in front cannot come before the other and not come before it
    obtain ⟨rfl, rfl⟩ := List.cons.inj hrest
    have hnot := hbefore' a (hmid ▸ by simp)
    rw [hafter b (by simp)] at hnot
    cases hnot
  · exact (List.cons.inj hrest).1.symm
  · obtain ⟨rfl, rfl⟩ := List.cons.inj hrest
    have hnot := hbefore b (hmid ▸ by simp)
    rw [hafter' a (by simp)] at hnot
    cases hnot

end BankStatement
