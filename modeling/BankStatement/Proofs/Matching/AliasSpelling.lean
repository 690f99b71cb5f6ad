import BankStatement.Proofs.Matching.ContactPriority
import BankStatement.Proofs.Matching.Globs
import BankStatement.Proofs.Text.LowerCase
import BankStatement.Proofs.Text.Splitting

/-!
# Aliases and the spelling of a counterparty

A counterparty is looked up in normal form, in lower case and with umlauts written as two letters.
An alias is only put into lower case. So the two fit together where every character keeps its number
of letters (`Covers.lowered`): the wildcard `*` may take anything, but a wildcard `?` or a character
that meets an umlaut or sharp s meets two letters in the normal form.

An alias with an umlaut or sharp s of its own covers no normal form at all
(`globMatches_eq_false_of_folds`), although names, plans and securities are brought into normal form
on both sides. It would have to be spelled with two letters to find its owner.

Main statement: `matchContact_of_covers`, an alias that covers a counterparty letter by letter finds
a contact.

Lower case is not a matter of one character here. A sigma is put into lower case by what stands
around it, and the dotted capital I becomes two characters. So the lowered alias and the lowered
counterparty cannot be compared place by place; the induction carries, for both of them, whether a
cased character stands in front, and shows for each character of the alias that what it takes is
taken in normal form as well, wherever it stands (`exists_covers_lowered`).
-/

namespace BankStatement

open Text (LowersTo StandsApart simpleLower lowerChar lowerAfter variants)
open scoped Listed

namespace Matching

/-! ## Characters of a normal form -/

/-- What a character becomes in a normal name. -/
def normalChar (c : Char) : Text := foldUmlauts (lowerChar c)

theorem foldUmlauts_singleton (c : Char) : foldUmlauts [c] = foldedUmlaut c := by
  simp [foldUmlauts]

theorem foldedUmlaut_of_length {c : Char} (h : (foldedUmlaut c).length = 1) :
    foldedUmlaut c = [c] := by
  unfold foldedUmlaut at h ⊢
  split at h <;> first | rfl | cases h

theorem mem_foldedUmlaut {c e : Char} (h : e ∈ foldedUmlaut c) :
    e = c ∧ foldedUmlaut c = [c] ∨ e ∈ "aeousAOU".toList := by
  unfold foldedUmlaut at h ⊢
  split at h
  case h_8 => exact .inl ⟨List.mem_singleton.mp h, rfl⟩
  all_goals
    right
    revert h
    revert e
    decide

theorem mem_foldUmlauts {t : Text} {e : Char} (h : e ∈ foldUmlauts t) :
    e ∈ t ∧ foldedUmlaut e = [e] ∨ e ∈ "aeousAOU".toList := by
  obtain ⟨c, hc, he⟩ := List.mem_flatMap.mp h
  rcases mem_foldedUmlaut he with ⟨rfl, hkept⟩ | hletter
  · exact .inl ⟨hc, hkept⟩
  · exact .inr hletter

/-- A character of one letter keeps to one letter whichever sigma it becomes, so it does not matter
here what stands around it. -/
theorem exists_of_length_normalChar {d : Char} {v : Text} (hd : (normalChar d).length = 1)
    (hv : LowersTo d v) : ∃ f ∈ variants (simpleLower d), v = [f] ∧ foldUmlauts v = [f] := by
  have hdotted : d ≠ 'İ' := by
    rintro rfl
    revert hd
    decide +kernel
  obtain ⟨f, hf, rfl⟩ := hv.exists_variant hdotted
  refine ⟨f, hf, rfl, ?_⟩
  rw [normalChar, Text.lowerChar_eq hdotted, foldUmlauts_singleton] at hd
  rw [foldUmlauts_singleton]
  unfold variants at hf
  split at hf
  · have hsigmas : ∀ f ∈ ['σ', 'ς'], foldedUmlaut f = [f] := by decide
    exact hsigmas f hf
  · rw [List.mem_singleton.mp hf]
    exact foldedUmlaut_of_length hd

/-! ## Letter by letter -/

namespace Reading

/-- Case is ignored, and outside of runs a character meets as many letters as it has itself. -/
def letterByLetter : Reading where
  inRun _ := True
  single c := (normalChar c).length = 1
  same x c := Text.sameIgnoringCase x c = true ∧ (lowerChar x).length = (normalChar c).length

instance : DecidableRel letterByLetter.same := fun _ _ => inferInstanceAs (Decidable (_ ∧ _))

end Reading

/-- The dotted capital I is met by itself alone. -/
theorem eq_dotted {d : Char} (hsame : Text.sameIgnoringCase 'İ' d = true)
    (hlength : (normalChar d).length = 2) : d = 'İ' := by
  by_contra hd
  rw [normalChar, Text.lowerChar_eq hd, foldUmlauts_singleton] at hlength
  have hlow : simpleLower d = 'i' ∨ simpleLower d = 'ı' := by
    have hi : simpleLower 'İ' = 'i' := by decide +kernel
    have hpeers : Text.entryAt? Text.Table.caselessPeers 'i'.toNat = some ['ı'.toNat] := by
      decide +kernel
    simp only [Text.sameIgnoringCase, hi, hpeers, Option.getD_some, Bool.or_eq_true, beq_iff_eq,
      List.contains_cons, List.contains_nil, Bool.or_false, Char.toNat_inj] at hsame
    exact hsame.imp Eq.symm id
  rcases hlow with hlow | hlow
  · rw [hlow] at hlength
    cases hlength
  · rw [hlow] at hlength
    cases hlength

/-- A character that takes another one takes it in normal form as well. -/
theorem covers_lowered_of_same {x d : Char} {u v : Text} (hrun : x ≠ '*') (hone : x ≠ '?')
    (h : Reading.letterByLetter.same x d) (hu : LowersTo x u) (hv : LowersTo d v) :
    Covers .ofPattern u (foldUmlauts v) := by
  obtain ⟨hsame, hlength⟩ := h
  by_cases hdotted : x = 'İ'
  · subst hdotted
    have htwo : (lowerChar 'İ').length = 2 := by decide +kernel
    obtain rfl := eq_dotted hsame (hlength ▸ htwo)
    have hboth {w : Text} (hw : LowersTo 'İ' w) : w = ['i', '\u0307'] := by
      rcases hw with rfl | ⟨hsigma, -⟩
      · decide +kernel
      · exact absurd hsigma (by decide)
    rw [hboth hu, hboth hv]
    exact .literal (by decide) rfl (by decide +kernel)
  · rw [Text.lowerChar_eq hdotted, List.length_singleton] at hlength
    obtain ⟨e, he, rfl⟩ := hu.exists_variant hdotted
    obtain ⟨f, hf, -, hfold⟩ := exists_of_length_normalChar hlength.symm hv
    have hwild {d : Char} (hx : x ≠ d) (hd : StandsApart d) : e ≠ d := by
      rintro rfl
      exact hx (hu.eq_of_mem (List.mem_singleton_self _) hd)
    rw [hfold]
    refine .cons (w := [f]) ?_ .nil
    exact (Reading.standsFor_of_ne (hwild hrun (by decide +kernel)) (hwild hone (by decide +kernel))
      [f]).mpr ⟨f, Text.sameIgnoringCase_of_mem_variants hsame he hf, rfl⟩

/-- What a character of an alias takes it takes in normal form as well. The text behind is
arbitrary, since it has a say in the lower case of a sigma in front of it. -/
theorem exists_covers_lowered {x : Char} {w u : Text} (h : Reading.letterByLetter.StandsFor x w)
    (hline : '\n' ∉ w) (hu : LowersTo x u) (afterCased : Bool) (t : Text) :
    ∃ v afterNext, lowerAfter afterCased (w ++ t) = v ++ lowerAfter afterNext t
      ∧ Covers .ofPattern u (foldUmlauts v) := by
  have hfeed : StandsApart '\n' := by decide +kernel
  by_cases hrun : x = '*'
  · subst hrun
    obtain ⟨v, afterNext, heq, hv⟩ := Text.exists_lowerAfter_append afterCased w t
    refine ⟨v, afterNext, heq, ?_⟩
    rw [hu.eq_self (by decide) (by decide) (by decide +kernel), ← List.append_nil (foldUmlauts v)]
    refine .cons (fun e he => ?_) .nil
    rintro rfl
    rcases mem_foldUmlauts he with ⟨he, -⟩ | hletter
    · obtain ⟨c, hc, v', hv', he⟩ := hv _ he
      exact hline (hv'.eq_of_mem he hfeed ▸ hc)
    · exact absurd hletter (by decide)
  by_cases hone : x = '?'
  · subst hone
    obtain ⟨d, hd, rfl⟩ := h
    obtain ⟨v, afterNext, hv, heq⟩ := Text.exists_lowerAfter_cons afterCased d t
    refine ⟨v, afterNext, heq, ?_⟩
    obtain ⟨f, -, rfl, hfold⟩ := exists_of_length_normalChar hd hv
    rw [hu.eq_self (by decide) (by decide) (by decide +kernel), hfold]
    refine .cons (w := [f]) ⟨f, ?_, rfl⟩ .nil
    rintro rfl
    exact hline (List.mem_singleton.mpr (hv.eq_of_mem (List.mem_singleton_self _) hfeed).symm)
  · obtain ⟨d, hd, rfl⟩ := (Reading.standsFor_of_ne hrun hone w).mp h
    obtain ⟨v, afterNext, hv, heq⟩ := Text.exists_lowerAfter_cons afterCased d t
    exact ⟨v, afterNext, heq, covers_lowered_of_same hrun hone hd hu hv⟩

/-- Letter by letter, an alias covers the normal form of what it covers. -/
theorem Covers.lowered {p t : Text} (h : Covers .letterByLetter p t) (hline : '\n' ∉ t)
    (afterCased afterCased' : Bool) :
    Covers .ofPattern (lowerAfter afterCased p) (foldUmlauts (lowerAfter afterCased' t)) := by
  induction h generalizing afterCased afterCased' with
  | nil => exact .nil
  | @cons x p w t hw ht ih =>
      rw [List.mem_append, not_or] at hline
      obtain ⟨u, afterNext, hu, heq⟩ := Text.exists_lowerAfter_cons afterCased x p
      obtain ⟨v, afterNext', heq', hcovers⟩ := exists_covers_lowered hw hline.1 hu afterCased' t
      rw [heq, heq', foldUmlauts_append]
      exact hcovers.append (ih hline.2 afterNext afterNext')

/-- A counterparty that does not end with a blank loses nothing at its end. -/
theorem normalName_of_trimmed {t : Text} (h : Text.Trimmed t) :
    normalName (some t) = foldUmlauts (Text.lower t) := by
  have hlast := Text.getLast_lowerAfter h.2 false
  rw [normalName, Option.getD_some, Text.lower, Text.stripRight, Text.dropRightWhile_of_last hlast]

theorem Covers.globMatches {p t : Text} (h : Covers .letterByLetter p t) (ht : Text.Trimmed t)
    (hline : Text.IsLine t) : globMatches p (normalName (some t)) = true := by
  rw [globMatches_iff, normalName_of_trimmed ht]
  exact ⟨_, .inl rfl, h.lowered hline.2 false false⟩

/-! ## Aliases with umlauts -/

def umlauts : List Char := ['ä', 'ö', 'ü', 'ß']

def capitalUmlauts : List Char := ['Ä', 'Ö', 'Ü', 'ẞ']

theorem mem_of_foldedUmlaut_ne {e : Char} (h : foldedUmlaut e ≠ [e]) :
    e ∈ umlauts ∨ e ∈ capitalUmlauts := by
  unfold foldedUmlaut at h
  split at h
  case h_8 => exact absurd rfl h
  all_goals decide

/-- What counts as an umlaut or sharp s is one. -/
theorem mem_of_same_umlaut {m f : Char} (hm : m ∈ umlauts)
    (h : Text.sameIgnoringCase m f = true) : f ∈ umlauts ∨ f ∈ capitalUmlauts := by
  have hlow : ∀ m ∈ umlauts, simpleLower m = m ∧ m ≠ simpleLower 'İ' ∧ m ≠ '\x00'
      ∧ Text.entryAt? Text.Table.caselessPeers m.toNat = none
      ∧ ∀ n ∈ Text.shiftedTo Text.Table.lowerRuns m.toNat, Char.ofNat n ∈ capitalUmlauts := by
    decide +kernel
  obtain ⟨hself, hdotted, hzero, hpeers, hshift⟩ := hlow m hm
  simp only [Text.sameIgnoringCase, hself, hpeers, Option.getD_none, List.contains_nil,
    Bool.or_false, beq_iff_eq] at h
  have hf : f ≠ 'İ' := by
    rintro rfl
    exact hdotted h
  rcases Text.eq_or_mem_of_simpleLower hf hzero h.symm with rfl | hmem
  · exact .inl hm
  · have hcapital := hshift _ hmem
    rw [Char.ofNat_toNat] at hcapital
    exact .inr hcapital

/-- No character of a normal form counts as an umlaut or sharp s, for these are written out in it
and case does not make one of another letter. -/
theorem not_same_of_mem_normalName {m f : Char} (hm : m ∈ umlauts) {t : Option Text}
    (hf : f ∈ normalName t) : Text.sameIgnoringCase m f = false := by
  rw [Bool.eq_false_iff]
  intro hsame
  have hlisted := List.mem_append.mpr (mem_of_same_umlaut hm hsame)
  rcases mem_foldUmlauts hf with ⟨hmem, hkept⟩ | hletter
  · -- only the capital sharp s is not folded, and lower case has turned it into the other one
    have hsharp : ∀ f ∈ umlauts ++ capitalUmlauts, foldedUmlaut f = [f] → f = 'ẞ' := by decide
    obtain rfl := hsharp f hlisted hkept
    obtain ⟨c, -, u, hu, he⟩ := Text.exists_of_mem_lower (Text.mem_of_mem_stripRight hmem)
    obtain rfl := hu.eq_of_mem he (by decide +kernel)
    rcases hu with rfl | ⟨hsigma, -⟩
    · revert he
      decide +kernel
    · exact absurd hsigma (by decide)
  · have hplain : ∀ f ∈ umlauts ++ capitalUmlauts, f ∉ "aeousAOU".toList := by decide
    exact hplain f hlisted hletter

/-- A character that a normal form writes otherwise is an umlaut or sharp s. -/
theorem lowerChar_of_folds {x : Char} (h : normalChar x ≠ lowerChar x) :
    x ≠ 'Σ' ∧ lowerChar x = [simpleLower x] ∧ simpleLower x ∈ umlauts := by
  have hkept : ∀ d ∈ ['İ', 'Σ'], normalChar d = lowerChar d := by decide +kernel
  have hdotted : x ≠ 'İ' := by
    rintro rfl
    exact h (hkept _ (by decide))
  have hsigma : x ≠ 'Σ' := by
    rintro rfl
    exact h (hkept _ (by decide))
  have hlower := Text.lowerChar_eq hdotted
  refine ⟨hsigma, hlower, ?_⟩
  rw [normalChar, hlower, foldUmlauts_singleton] at h
  rcases mem_of_foldedUmlaut_ne h with hm | hcapital
  · exact hm
  · -- nothing becomes a capital letter in lower case
    have hraised : ∀ e ∈ capitalUmlauts, StandsApart e ∧ simpleLower e ≠ e := by decide +kernel
    obtain ⟨hapart, hne⟩ := hraised _ hcapital
    have hmem : simpleLower x ∈ lowerChar x := hlower ▸ List.mem_singleton_self _
    have hx := LowersTo.eq_of_mem (.inl rfl) hmem hapart
    rw [← hx] at hne
    exact absurd hx.symm hne

/-- An alias with an umlaut or sharp s covers nothing of a normal form, with whatever wildcards
around it: some character of the text would have to be met by it. -/
theorem globMatches_eq_false_of_folds {pattern : Text} {x : Char} (hx : x ∈ pattern)
    (hfolds : normalChar x ≠ lowerChar x) {s : Text} {t : Option Text} (hs : s ⊆ normalName t) :
    globMatches pattern s = false := by
  obtain ⟨hsigma, heq, hm⟩ := lowerChar_of_folds hfolds
  rw [Bool.eq_false_iff, ne_eq, globMatches_iff]
  rintro ⟨u, hu, hcovers⟩
  have hlower : simpleLower x ∈ Text.lower pattern := by
    obtain ⟨v, hv, hmem⟩ := Text.exists_lowersTo_of_mem hx
    rcases hv with rfl | ⟨hs, -⟩
    · exact hmem _ (heq ▸ List.mem_singleton_self _)
    · exact absurd hs hsigma
  have hwild : ∀ m ∈ umlauts, m ≠ '*' ∧ m ≠ '?' := by decide
  obtain ⟨f, hf, hsame⟩ := hcovers.exists_same hlower (hwild _ hm).1 (hwild _ hm).2
  have hfs : f ∈ s := by
    rcases hu with rfl | rfl
    · exact hf
    · exact List.mem_append_left _ hf
  have hnot := not_same_of_mem_normalName hm (hs hfs)
  rw [Reading.ofPattern] at hsame
  rw [hsame] at hnot
  cases hnot

end Matching

namespace Classifier

open Matching (Covers normalName normalChar)

variable {k : Classifier} {contact : Contact} {pattern counterparty : Text}

/-- Aliases that all have an umlaut or sharp s find nobody. -/
theorem matchContact_of_folds {name : Option Text}
    (hnamed : ∀ c ∈ k.contacts, ¬c.IsWithin (normalName name))
    (hfolds : ∀ c ∈ k.contacts, ∀ pattern ∈ c.patterns, ∃ x ∈ pattern, normalChar x ≠ lowerChar x) :
    k.matchContact (normalName name) = none := by
  have hnone {s : Text} (hs : s ⊆ normalName name) : k.covering s = [] := by
    rw [List.eq_nil_iff_forall_not_mem]
    rintro ⟨pattern, c⟩ hmem
    obtain ⟨hc, hpattern, hmatches⟩ := mem_covering.mp hmem
    obtain ⟨x, hx, hx'⟩ := hfolds c hc pattern hpattern
    rw [Matching.globMatches_eq_false_of_folds hx hx' hs] at hmatches
    cases hmatches
  exact matchContact_eq_none_iff.mpr
    ⟨hnamed, hnone (List.Subset.refl _), hnone List.filter_sublist.subset⟩

/-- An alias that covers a counterparty letter by letter covers its normal form, so the counterparty
finds a contact: by name, or the one whose alias comes first among those that cover it. -/
theorem matchContact_of_covers (hcontact : contact ∈ k.contacts)
    (hpattern : pattern ∈ contact.patterns) (htrimmed : Text.Trimmed counterparty)
    (hline : Text.IsLine counterparty) (hcovers : Covers .letterByLetter pattern counterparty) :
    (pattern, contact) ∈ k.covering (normalName (some counterparty))
      ∧ ∃ found, k.matchContact (normalName (some counterparty)) = some found
        ∧ (found.IsWithin (normalName (some counterparty))
          ∨ k.OwnsLongest (normalName (some counterparty)) found) := by
  have hmem := mem_covering.mpr ⟨hcontact, hpattern, hcovers.globMatches htrimmed hline⟩
  refine ⟨hmem, ?_⟩
  cases hfound : k.matchContact (normalName (some counterparty)) with
  | none =>
      rw [(matchContact_eq_none_iff.mp hfound).covering] at hmem
      cases hmem
  | some found =>
      refine ⟨found, rfl, ?_⟩
      cases matchContact_eq_some_iff.mp hfound with
      | called h => exact .inl h.1.isWithin
      | within _ h => exact .inl h.1
      | covered _ h => exact .inr h
      | coveredTogether _ hcovered _ =>
          rw [hcovered] at hmem
          cases hmem

end Classifier

namespace Household

open Matching (Covers Reading normalName)

def mueller : Contact where
  id := "mueller".toList
  name := "Bäckerei am Markt".toList
  aliases := ["Müller*".toList]

def weiss : Contact where
  id := "weiss".toList
  name := "Autohaus Weiß".toList
  aliases := ["auto*?".toList, " KFZ M*ller* ".toList]

/-- With a run in the place of the umlaut the alias finds its owner. -/
theorem matchContact_of_covers_weiss :
    let k := { classifier with contacts := [holder, mueller, weiss] }
    weiss ∈ k.contacts ∧ "KFZ M*ller*".toList ∈ weiss.patterns
      ∧ Text.Trimmed "Kfz Müller GmbH".toList ∧ Text.IsLine "Kfz Müller GmbH".toList
      ∧ Covers .letterByLetter "KFZ M*ller*".toList "Kfz Müller GmbH".toList
      ∧ (∃ found, k.matchContact (normalName (some "Kfz Müller GmbH".toList)) = some found) := by
  intro k
  have hcovers : Covers .letterByLetter "KFZ M*ller*".toList "Kfz Müller GmbH".toList :=
    (Covers.literal (p := "KFZ M".toList) (t := "Kfz M".toList) (by decide) rfl
      (by decide +kernel)).append
      (.cons (x := '*') (w := "ü".toList) (fun _ _ => trivial)
        ((Covers.literal (p := "ller".toList) (t := "ller".toList) (by decide) rfl
          (by decide +kernel)).append
          (.cons (x := '*') (w := " GmbH".toList) (fun _ _ => trivial) .nil)))
  have hmem : weiss ∈ k.contacts := by decide
  refine ⟨hmem, by decide +kernel, by decide, by decide, hcovers, ?_⟩
  obtain ⟨-, found, hfound, -⟩ := Classifier.matchContact_of_covers hmem (by decide +kernel)
    (by decide) (by decide) hcovers
  exact ⟨found, hfound⟩

/-- Where the alias has the umlaut itself, its owner is not found. -/
theorem not_matchContact_of_covers :
    ¬∀ (k : Classifier) (contact : Contact) (alias_ counterparty : Text), contact ∈ k.contacts →
      alias_ ∈ contact.aliases → Text.Trimmed counterparty → Text.IsLine counterparty →
      Covers .ignoringCase alias_ counterparty →
        ∃ found, k.matchContact (normalName (some counterparty)) = some found := by
  intro hclaim
  have hcovers : Covers .ignoringCase "Müller*".toList "Müller GmbH".toList :=
    (Covers.literal (p := "Müller".toList) (t := "Müller".toList) (by decide) rfl
      (by decide +kernel)).append (.cons (x := '*') (w := " GmbH".toList) (fun _ _ => trivial) .nil)
  obtain ⟨found, hfound⟩ := hclaim { classifier with contacts := [holder, mueller] } mueller
    "Müller*".toList "Müller GmbH".toList (by decide) (by decide) (by decide) (by decide) hcovers
  rw [Classifier.matchContact_of_folds (by decide +kernel) (by decide +kernel)] at hfound
  cases hfound

end Household

end BankStatement
