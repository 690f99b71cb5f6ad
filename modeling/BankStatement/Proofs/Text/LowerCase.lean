import BankStatement.Proofs.Text.Classes
import BankStatement.Text.Case
import Mathlib.Data.List.Basic

/-!
# What lower case does to characters

In lower case a character becomes one other character, except that the dotted capital I becomes two
and that a capital sigma has two lower cases, which of them depending on its neighbours. `LowersTo`
forgets the neighbours, so that lowering a text goes through it character by character
(`exists_lowerAfter_cons`).

From which characters a lower case can come is read off the table (`shiftedTo`). Most characters
that are no letters come from nothing but themselves (`StandsApart`), blanks among them. Characters
that are equal up to case stay so in lower case, whichever sigma they become
(`sameIgnoringCase_of_mem_variants`).

Statements about lower case are of two kinds. In one, the lower case of a text is given and
something about the text is wanted, for instance that it does not end with a blank; these need
`LowersTo` and the table read backwards. In the other, two texts are lowered side by side, and it is
enough that they agree character by character up to the choice of a sigma. Which sigma is chosen
never matters in either, and so no statement here speaks of neighbours.

The table has a few hundred entries. Facts about all characters are decided by going through its
entries, and the characters that are in none of them are left alone by definition.
-/

namespace BankStatement

/-! ## Going through lists

There are only finitely many characters, so a statement about the characters of a list could be
decided by going through all of them. These instances go through the list. -/

namespace Listed

variable {α : Type} {p : α → Prop} [DecidablePred p]

scoped instance (priority := high) decidableForallMem (l : List α) :
    Decidable (∀ a, a ∈ l → p a) :=
  List.decidableBAll p l

scoped instance (priority := high) decidableExistsMem (l : List α) :
    Decidable (∃ a, a ∈ l ∧ p a) :=
  List.decidableBEx p l

end Listed

namespace Text

open Table
open scoped Listed

/-! ## Where a lower case comes from -/

def Table.CaseRun.Shifts (run : CaseRun) (n : Nat) : Prop :=
  run.first ≤ n ∧ n ≤ run.last ∧ (n - run.first) % run.step = 0

theorem shiftIn_eq_or (runs : List CaseRun) (n : Nat) :
    shiftIn runs n = n ∨ ∃ run ∈ runs, run.Shifts n
      ∧ shiftIn runs n = (Int.ofNat n + run.shift).toNat := by
  induction runs with
  | nil => exact .inl rfl
  | cons run runs ih =>
      rw [shiftIn]
      split
      · exact .inl rfl
      split
      next hlow hin =>
        simp only [Bool.and_eq_true, decide_eq_true_eq, beq_iff_eq] at hin
        exact .inr ⟨run, List.mem_cons_self, ⟨Nat.le_of_not_lt hlow, hin⟩, rfl⟩
      next =>
        rcases ih with hkept | ⟨other, hmem, hother⟩
        · exact .inl hkept
        · exact .inr ⟨other, List.mem_cons_of_mem run hmem, hother⟩

/-- The code points that runs may shift to `n`. -/
def shiftedTo (runs : List CaseRun) (n : Nat) : List Nat :=
  runs.filterMap fun run =>
    let m := (Int.ofNat n - run.shift).toNat
    if run.first ≤ m ∧ m ≤ run.last then some m else none

theorem eq_or_mem_shiftedTo {runs : List CaseRun} {m n : Nat} (h : shiftIn runs n = m)
    (hm : m ≠ 0) : n = m ∨ n ∈ shiftedTo runs m := by
  rcases shiftIn_eq_or runs n with hkept | ⟨run, hrun, ⟨hlow, hhigh, -⟩, hshift⟩
  · exact .inl (hkept.symm.trans h)
  · refine .inr (List.mem_filterMap.mpr ⟨run, hrun, ?_⟩)
    have hback : (Int.ofNat m - run.shift).toNat = n := by
      rw [h] at hshift
      simp only [Int.ofNat_eq_natCast] at hshift ⊢
      omega
    simp only [hback, hlow, hhigh, and_self, if_true]

theorem lowerChar_of_ne {c : Char} (h : c ≠ 'İ') :
    lowerChar c = [Char.ofNat (shiftIn lowerRuns c.toNat)] := by
  have hno : c.toNat ≠ 0x130 := fun hc => h (Char.toNat_inj.mp hc)
  have hentry : entryAt? lowerExpansions c.toNat = none := by
    simp only [lowerExpansions, entryAt?, hno, if_false, ite_self]
  rw [lowerChar, mapCase, hentry]

theorem lowerChar_eq {c : Char} (h : c ≠ 'İ') : lowerChar c = [simpleLower c] := by
  rw [simpleLower, lowerChar_of_ne h, List.headD_cons]

theorem eq_or_mem_of_simpleLower {c e : Char} (hc : c ≠ 'İ') (he : e ≠ '\x00')
    (h : simpleLower c = e) : c = e ∨ c.toNat ∈ shiftedTo lowerRuns e.toNat := by
  rw [simpleLower, lowerChar_of_ne hc, List.headD_cons] at h
  have hcode : shiftIn lowerRuns c.toNat = e.toNat := by
    by_cases hvalid : (shiftIn lowerRuns c.toNat).isValidChar
    · rw [← h, Char.ofNat, dif_pos hvalid]
      rfl
    · rw [Char.ofNat, dif_neg hvalid] at h
      exact absurd h.symm he
  have hpos : e.toNat ≠ 0 := fun h0 => he (Char.toNat_inj.mp h0)
  rcases eq_or_mem_shiftedTo hcode hpos with heq | hmem
  · exact .inl (Char.toNat_inj.mp heq)
  · exact .inr hmem

/-! ## Lowering a text character by character -/

/-- What a character can become in the lower case of a text. -/
def LowersTo (c : Char) (u : Text) : Prop := u = lowerChar c ∨ c = 'Σ' ∧ u = ['ς']

theorem exists_lowerAfter_cons (afterCased : Bool) (c : Char) (t : Text) :
    ∃ u afterNext, LowersTo c u ∧ lowerAfter afterCased (c :: t) = u ++ lowerAfter afterNext t := by
  rw [lowerAfter]
  refine ⟨_, _, ?_, rfl⟩
  by_cases hc : c = 'Σ'
  · subst hc
    rw [if_pos rfl]
    split
    · exact .inr ⟨rfl, rfl⟩
    · exact .inl (by decide +kernel)
  · rw [if_neg hc]
    exact .inl rfl

theorem LowersTo.eq_or {c : Char} {u : Text} (h : LowersTo c u) :
    c = 'İ' ∧ u = lowerChar 'İ' ∨ c ≠ 'İ' ∧ (u = [simpleLower c] ∨ c = 'Σ' ∧ u = ['ς']) := by
  by_cases hc : c = 'İ'
  · subst hc
    rcases h with rfl | ⟨hsigma, -⟩
    · exact .inl ⟨rfl, rfl⟩
    · exact absurd hsigma (by decide)
  · rcases h with rfl | hsigma
    · exact .inr ⟨hc, .inl (lowerChar_eq hc)⟩
    · exact .inr ⟨hc, .inr hsigma⟩

theorem LowersTo.eq_self {c : Char} {u : Text} (h : LowersTo c u) (hdotted : c ≠ 'İ')
    (hsigma : c ≠ 'Σ') (hself : simpleLower c = c) : u = [c] := by
  rcases h.eq_or with ⟨hc, -⟩ | ⟨-, rfl | ⟨hc, -⟩⟩
  · exact absurd hc hdotted
  · rw [hself]
  · exact absurd hc hsigma

theorem LowersTo.ne_nil {c : Char} {u : Text} (h : LowersTo c u) : u ≠ [] := by
  rcases h.eq_or with ⟨-, rfl⟩ | ⟨-, rfl | ⟨-, rfl⟩⟩
  · decide +kernel
  · exact List.cons_ne_nil _ _
  · exact List.cons_ne_nil _ _

/-- The character is no lower case of another one. -/
def StandsApart (e : Char) : Prop :=
  e ∉ ['\x00', 'i', '\u0307', 'ς'] ∧ shiftedTo lowerRuns e.toNat = []

instance (e : Char) : Decidable (StandsApart e) := inferInstanceAs (Decidable (_ ∧ _))

theorem LowersTo.eq_of_mem {c e : Char} {u : Text} (h : LowersTo c u) (he : e ∈ u)
    (hapart : StandsApart e) : c = e := by
  obtain ⟨hlisted, hshift⟩ := hapart
  rcases h.eq_or with ⟨-, rfl⟩ | ⟨hc, rfl | ⟨-, rfl⟩⟩
  · have hdotted : ∀ d ∈ lowerChar 'İ', d ∈ ['\x00', 'i', '\u0307', 'ς'] := by decide +kernel
    exact absurd (hdotted e he) hlisted
  · have hzero : e ≠ '\x00' := by
      rintro rfl
      exact hlisted (by decide)
    rcases eq_or_mem_of_simpleLower hc hzero (List.mem_singleton.mp he).symm with heq | hmem
    · exact heq
    · rw [hshift] at hmem
      cases hmem
  · rw [List.mem_singleton.mp he] at hlisted
    exact absurd hlisted (by decide)

/-- The first part of a text is lowered to characters that its own characters become; how the second
one is lowered may depend on the first. -/
theorem exists_lowerAfter_append (afterCased : Bool) (s t : Text) :
    ∃ v afterNext, lowerAfter afterCased (s ++ t) = v ++ lowerAfter afterNext t
      ∧ ∀ e ∈ v, ∃ c ∈ s, ∃ u, LowersTo c u ∧ e ∈ u := by
  induction s generalizing afterCased with
  | nil => exact ⟨[], afterCased, rfl, by simp⟩
  | cons c s ih =>
      obtain ⟨u, afterFirst, hu, hfirst⟩ := exists_lowerAfter_cons afterCased c (s ++ t)
      obtain ⟨v, afterNext, hrest, hv⟩ := ih afterFirst
      refine ⟨u ++ v, afterNext, ?_, fun e he => ?_⟩
      · rw [List.cons_append, hfirst, hrest, List.append_assoc]
      · rcases List.mem_append.mp he with he | he
        · exact ⟨c, List.mem_cons_self, u, hu, he⟩
        · obtain ⟨d, hd, hlower⟩ := hv e he
          exact ⟨d, List.mem_cons_of_mem c hd, hlower⟩

theorem exists_of_mem_lower {e : Char} {t : Text} (h : e ∈ lower t) :
    ∃ c ∈ t, ∃ u, LowersTo c u ∧ e ∈ u := by
  obtain ⟨v, afterNext, heq, hv⟩ := exists_lowerAfter_append false t []
  rw [List.append_nil, lowerAfter, List.append_nil] at heq
  exact hv e (heq ▸ h)

theorem exists_lowersTo_of_mem {c : Char} {t : Text} (h : c ∈ t) :
    ∃ u, LowersTo c u ∧ ∀ e ∈ u, e ∈ lower t := by
  obtain ⟨s, rest, rfl⟩ := List.append_of_mem h
  obtain ⟨v, afterFirst, hfirst, -⟩ := exists_lowerAfter_append false s (c :: rest)
  obtain ⟨u, afterNext, hu, hrest⟩ := exists_lowerAfter_cons afterFirst c rest
  refine ⟨u, hu, fun e he => ?_⟩
  rw [lower, hfirst, hrest]
  exact List.mem_append_right v (List.mem_append_left _ he)

/-! ## Blanks -/

theorem standsApart_of_isBlank {e : Char} (h : isBlank e = true) : StandsApart e :=
  forall_of_inRanges (by decide +kernel) h

/-- A text that does not end with a blank does not in lower case either. -/
theorem getLast_lowerAfter {t : Text} (h : ∀ c ∈ t.getLast?, isBlank c = false)
    (afterCased : Bool) : ∀ e ∈ (lowerAfter afterCased t).getLast?, isBlank e = false := by
  induction t generalizing afterCased with
  | nil =>
      intro e he
      cases he
  | cons c t ih =>
      obtain ⟨u, afterNext, hu, heq⟩ := exists_lowerAfter_cons afterCased c t
      cases t with
      | nil =>
          rw [heq, lowerAfter, List.append_nil]
          intro e he
          by_contra hblank
          rw [Bool.not_eq_false] at hblank
          rw [← hu.eq_of_mem (List.mem_of_mem_getLast? he)
            (standsApart_of_isBlank hblank)] at hblank
          rw [h c rfl] at hblank
          cases hblank
      | cons d t =>
          have hrest : lowerAfter afterNext (d :: t) ≠ [] := by
            obtain ⟨v, afterNext', hv, hcons⟩ := exists_lowerAfter_cons afterNext d t
            rw [hcons]
            exact List.append_ne_nil_of_left_ne_nil hv.ne_nil _
          rw [heq, List.getLast?_append_of_ne_nil _ hrest]
          exact ih (fun c hc => h c (by rwa [List.getLast?_cons_cons])) afterNext

/-! ## Equality up to case -/

/-- The lower cases of the characters that have a given one alone. -/
def variants (e : Char) : List Char := if e = 'σ' then ['σ', 'ς'] else [e]

theorem LowersTo.exists_variant {c : Char} {u : Text} (h : LowersTo c u) (hc : c ≠ 'İ') :
    ∃ e ∈ variants (simpleLower c), u = [e] := by
  rcases h.eq_or with ⟨hdotted, -⟩ | ⟨-, rfl | ⟨rfl, rfl⟩⟩
  · exact absurd hdotted hc
  · refine ⟨_, ?_, rfl⟩
    unfold variants
    split
    next hsigma => simp [hsigma]
    next => simp
  · exact ⟨'ς', by decide +kernel, rfl⟩

theorem mem_of_entryAt? {entries : List (Nat × List Nat)} {n : Nat} {codes : List Nat}
    (h : entryAt? entries n = some codes) : (n, codes) ∈ entries := by
  induction entries with
  | nil => cases h
  | cons entry entries ih =>
      rw [entryAt?] at h
      split at h
      · cases h
      split at h
      next heq =>
        cases h
        rw [heq]
        exact List.mem_cons_self
      next => exact List.mem_cons_of_mem _ (ih h)

theorem sameIgnoringCase_self (c : Char) : sameIgnoringCase c c = true := by
  simp [sameIgnoringCase]

/-- A character that is no lower case of another one and has no peers equals itself alone. -/
theorem eq_of_sameIgnoringCase {c d : Char} (hapart : StandsApart c) (hself : simpleLower c = c)
    (hpeers : entryAt? caselessPeers c.toNat = none) (h : sameIgnoringCase c d = true) : d = c := by
  simp only [sameIgnoringCase, hself, hpeers, Option.getD_none, List.contains_nil, Bool.or_false,
    beq_iff_eq] at h
  have hlower : LowersTo d (lowerChar d) := .inl rfl
  obtain ⟨e, u, hu⟩ := List.exists_cons_of_ne_nil hlower.ne_nil
  refine hlower.eq_of_mem ?_ hapart
  rw [h, simpleLower, hu]
  exact List.mem_cons_self

/-- Characters that are equal up to case stay so in lower case, whichever sigma they become. -/
theorem sameIgnoringCase_of_mem_variants {c d e f : Char} (h : sameIgnoringCase c d = true)
    (he : e ∈ variants (simpleLower c)) (hf : f ∈ variants (simpleLower d)) :
    sameIgnoringCase e f = true := by
  have hpeers : ∀ entry ∈ caselessPeers, ∀ code ∈ entry.2, ∀ e ∈ variants (Char.ofNat entry.1),
      ∀ f ∈ variants (Char.ofNat code), sameIgnoringCase e f = true := by
    decide +kernel
  simp only [sameIgnoringCase, Bool.or_eq_true, beq_iff_eq] at h
  rcases h with heq | hpeer
  · rw [← heq] at hf
    unfold variants at he hf
    split at he
    · have hsigmas : ∀ e ∈ ['σ', 'ς'], ∀ f ∈ ['σ', 'ς'], sameIgnoringCase e f = true := by
        decide +kernel
      exact hsigmas e he f (by rwa [if_pos ‹_›] at hf)
    · rw [if_neg ‹_›] at hf
      rw [List.mem_singleton.mp he, List.mem_singleton.mp hf]
      exact sameIgnoringCase_self _
  · cases hentry : entryAt? caselessPeers (simpleLower c).toNat with
    | none =>
        rw [hentry] at hpeer
        cases hpeer
    | some codes =>
        rw [hentry, Option.getD_some, List.contains_iff_mem] at hpeer
        refine hpeers _ (mem_of_entryAt? hentry) _ hpeer e ?_ f ?_
        · rwa [Char.ofNat_toNat]
        · rwa [Char.ofNat_toNat]

end Text

end BankStatement
