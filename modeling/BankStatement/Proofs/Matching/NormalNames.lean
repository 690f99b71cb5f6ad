import BankStatement.Proofs.Matching.AliasSpelling
import BankStatement.Proofs.Text.LowerAgain

/-!
# Names in normal form

A text is in normal form when its characters are low and no umlauts and no blank stands at its end.
These are the texts that `normalName` leaves alone, and it makes each text one of them
(`isNormal_normalName`).

Texts that spell a name differently have one normal form. `SpelledAlike` takes an umlaut or sharp s
for two letters, and a letter for itself in the other case. The letters that stand for an umlaut are
cased as it is, so they leave the sigmas around them as they are, and the spelling of one place does
not reach the lower case of another (`SpelledAlike.foldUmlauts_lowerAfter`). Writing the umlauts out
is such a change (`spelledAlike_foldUmlauts`), and blanks at the end are one that is undone. What is
left over is empty for a blank text alone, so that no name that a contact has stands in everything
(`normalName_canonical`).

The three steps of normalizing are lower case, umlauts, and blanks at the end. The last two can be
taken in either order, since umlauts are no blanks and are not written with any
(`stripRight_foldUmlauts`). The first cannot be moved: a capital sharp s is folded only because it
is put into lower case before.

Spelling is a relation between whole texts and not between characters, as a character that becomes
two letters moves everything behind it. Its rules go along the two texts together, and so does every
proof about it.
-/

namespace BankStatement

open Text (IsLow IsLetter Blanks lowerChar lowerAfter startsCased stripRight)
open scoped Listed

namespace Matching

variable {c d e : Char} {s t w : Text}

/-! ## Umlauts one after the other -/

/-- Umlauts can be replaced one after the other, since none is written with another one; the single
pass of the definition does the same. -/
theorem foldUmlauts_eq_replace (t : Text) :
    foldUmlauts t
      = [('ä', "ae"), ('Ä', "Ae"), ('ö', "oe"), ('Ö', "Oe"), ('ü', "ue"), ('Ü', "Ue"),
          ('ß', "ss")].foldl (fun t (c, letters) => Text.replace [c] letters.toList t) t := by
  simp only [List.foldl_cons, List.foldl_nil, Text.replace_singleton, List.flatMap_assoc]
  refine List.flatMap_congr fun c _ => ?_
  unfold foldedUmlaut
  split
  case h_8 ha hA ho hO hu hU hs =>
    simp [Ne.symm ha, Ne.symm hA, Ne.symm ho, Ne.symm hO, Ne.symm hu, Ne.symm hU, Ne.symm hs]
  all_goals decide

theorem foldedUmlaut_ne_nil (c : Char) : foldedUmlaut c ≠ [] := by
  unfold foldedUmlaut
  split <;> exact List.cons_ne_nil _ _

theorem foldUmlauts_of_kept (h : ∀ c ∈ t, foldedUmlaut c = [c]) : foldUmlauts t = t := by
  rw [foldUmlauts, List.flatMap_congr h, List.flatMap_singleton']

/-! ## Blanks at the end -/

theorem foldedUmlaut_of_isBlank (h : isBlank c = true) : foldedUmlaut c = [c] := by
  have hletters : ∀ c ∈ umlauts ++ capitalUmlauts, isBlank c = false := by decide
  by_contra hne
  rw [hletters c (List.mem_append.mpr (mem_of_foldedUmlaut_ne hne))] at h
  cases h

theorem isBlank_of_mem_foldedUmlaut (hc : isBlank c = false) (he : e ∈ foldedUmlaut c) :
    isBlank e = false := by
  have hletters : ∀ e ∈ "aeousAOU".toList, isBlank e = false := by decide
  rcases mem_foldedUmlaut he with ⟨rfl, -⟩ | hletter
  · exact hc
  · exact hletters e hletter

theorem getLast_foldUmlauts (h : ∀ c ∈ t.getLast?, isBlank c = false) :
    ∀ e ∈ (foldUmlauts t).getLast?, isBlank e = false := by
  rcases List.eq_nil_or_concat t with rfl | ⟨t, c, rfl⟩
  · exact h
  · intro e he
    rw [List.concat_eq_append] at h he
    rw [foldUmlauts_append, foldUmlauts_singleton,
      List.getLast?_append_of_ne_nil _ (foldedUmlaut_ne_nil c)] at he
    exact isBlank_of_mem_foldedUmlaut (h c (by simp)) (List.mem_of_getLast? he)

/-- Umlauts are written out before or after the blanks at the end are dropped. -/
theorem stripRight_foldUmlauts (t : Text) :
    stripRight (foldUmlauts t) = foldUmlauts (stripRight t) := by
  obtain ⟨w, hw, ht, hlast⟩ := Text.exists_stripRight t
  have hblanks : foldUmlauts w = w :=
    foldUmlauts_of_kept fun c hc => foldedUmlaut_of_isBlank (hw c hc)
  conv => lhs; rw [ht, foldUmlauts_append, hblanks]
  exact Text.dropRightWhile_of_all hw (getLast_foldUmlauts hlast)

theorem normalName_eq (t : Text) :
    normalName (some t) = stripRight (foldUmlauts (Text.lower t)) :=
  (stripRight_foldUmlauts _).symm

/-! ## Normal forms -/

/-- A text that has nothing left to be normalized. -/
structure IsNormal (t : Text) : Prop where
  low : ∀ c ∈ t, IsLow c
  kept : ∀ c ∈ t, foldedUmlaut c = [c]
  last : ∀ c ∈ t.getLast?, isBlank c = false

theorem IsNormal.normalName_eq (h : IsNormal t) : normalName (some t) = t := by
  rw [Matching.normalName_eq, Text.lower_of_low h.low, foldUmlauts_of_kept h.kept]
  exact Text.dropRightWhile_of_last h.last

/-- What a low character is written with is low, and is left as it is. -/
theorem low_of_mem_foldedUmlaut (hc : IsLow c) (he : e ∈ foldedUmlaut c) :
    IsLow e ∧ foldedUmlaut e = [e] := by
  by_cases hkept : foldedUmlaut c = [c]
  · rw [hkept] at he
    rw [List.mem_singleton.mp he]
    exact ⟨hc, hkept⟩
  · have hlow : ∀ c ∈ umlauts, ∀ e ∈ foldedUmlaut c, IsLow e ∧ foldedUmlaut e = [e] := by
      decide +kernel
    have hcapital : ∀ c ∈ capitalUmlauts, ¬IsLow c := by decide +kernel
    rcases mem_of_foldedUmlaut_ne hkept with hmem | hmem
    · exact hlow c hmem e he
    · exact absurd hc (hcapital c hmem)

theorem isNormal_normalName (t : Option Text) : IsNormal (normalName t) := by
  obtain ⟨-, -, -, hlast⟩ := Text.exists_stripRight (Text.lower (t.getD []))
  have hwritten : ∀ e ∈ normalName t, IsLow e ∧ foldedUmlaut e = [e] := by
    intro e he
    obtain ⟨c, hc, he⟩ := List.mem_flatMap.mp he
    exact low_of_mem_foldedUmlaut (Text.isLow_of_mem_lower (Text.mem_of_mem_stripRight hc)) he
  exact ⟨fun e he => (hwritten e he).1, fun e he => (hwritten e he).2, getLast_foldUmlauts hlast⟩

/-- The texts that are left alone are those in normal form. -/
theorem normalName_eq_self_iff : normalName (some t) = t ↔ IsNormal t :=
  ⟨fun h => h ▸ isNormal_normalName (some t), IsNormal.normalName_eq⟩

/-- Nothing is left over of blank texts alone. -/
theorem normalName_eq_nil_iff : normalName (some t) = [] ↔ Text.isBlankText t = true := by
  rw [Text.isBlankText_iff]
  constructor
  · intro h c hc
    have hnil : stripRight (Text.lower t) = [] := by
      rw [List.eq_nil_iff_forall_not_mem]
      intro e he
      exact foldedUmlaut_ne_nil e (List.flatMap_eq_nil_iff.mp h e he)
    obtain ⟨w, hw, hlower, -⟩ := Text.exists_stripRight (Text.lower t)
    rw [hnil, List.nil_append] at hlower
    obtain ⟨u, hu, hmem⟩ := Text.exists_lowersTo_of_mem hc
    obtain ⟨e, he⟩ := List.exists_mem_of_ne_nil u hu.ne_nil
    have hblank : isBlank e = true := hw e (hlower ▸ hmem e he)
    rwa [hu.eq_of_mem he (Text.standsApart_of_isBlank hblank)]
  · intro hblanks
    have hlower : Text.lower t = t :=
      Text.lower_of_low fun c hc => Text.isLow_of_isBlank (hblanks c hc)
    rw [normalName, Option.getD_some, hlower, ← List.nil_append t,
      Text.stripRight_append_blanks hblanks]
    rfl

/-! ## Spellings -/

/-- The ways to write an umlaut or sharp s with two letters. -/
def spellings : Char → List Text
  | 'ä' | 'Ä' => ["ae", "Ae", "aE", "AE"].map String.toList
  | 'ö' | 'Ö' => ["oe", "Oe", "oE", "OE"].map String.toList
  | 'ü' | 'Ü' => ["ue", "Ue", "uE", "UE"].map String.toList
  | 'ß' | 'ẞ' => ["ss", "Ss", "sS", "SS"].map String.toList
  | _ => []

/-- A text in another spelling: letters may have the other case, and umlauts and sharp s may be
written with two letters. -/
inductive SpelledAlike : Text → Text → Prop where
  | nil : SpelledAlike [] []
  | keep {s t : Text} (c : Char) (h : SpelledAlike s t) : SpelledAlike (c :: s) (c :: t)
  | recase {s t : Text} {c d : Char} (hc : IsLetter c) (hd : IsLetter d)
      (hcase : lowerChar c = lowerChar d) (h : SpelledAlike s t) : SpelledAlike (c :: s) (d :: t)
  | write {s t w : Text} {c : Char} (hw : w ∈ spellings c) (h : SpelledAlike s t) :
      SpelledAlike (c :: s) (w ++ t)

theorem mem_of_spellings (h : w ∈ spellings c) : c ∈ umlauts ++ capitalUmlauts := by
  unfold spellings at h
  split at h <;> first | decide | cases h

/-- The letters that stand for an umlaut stand for it in normal form as well. -/
theorem letters_of_spellings (h : w ∈ spellings c) :
    IsLetter c ∧ w ≠ [] ∧ (∀ d ∈ w, IsLetter d)
      ∧ foldUmlauts (w.flatMap lowerChar) = normalChar c := by
  have hall : ∀ c ∈ umlauts ++ capitalUmlauts, ∀ w ∈ spellings c,
      IsLetter c ∧ w ≠ [] ∧ (∀ d ∈ w, IsLetter d)
        ∧ foldUmlauts (w.flatMap lowerChar) = normalChar c := by
    decide +kernel
  exact hall c (mem_of_spellings h) w h

theorem spelledAlike_foldUmlauts (t : Text) : SpelledAlike t (foldUmlauts t) := by
  induction t with
  | nil => exact .nil
  | cons c t ih =>
      have hspelling : foldedUmlaut c = [c] ∨ foldedUmlaut c ∈ spellings c := by
        unfold foldedUmlaut
        split
        case h_8 => exact .inl rfl
        all_goals decide
      rw [foldUmlauts, List.flatMap_cons]
      rcases hspelling with hkept | hwritten
      · rw [hkept]
        exact .keep c ih
      · exact .write hwritten ih

/-- A spelling does not show in lower case once the umlauts are written out, whatever stands in
front of it and behind it. That both begin with a cased character or both do not is carried along,
because a sigma in front looks at it. -/
theorem SpelledAlike.foldUmlauts_lowerAfter (h : SpelledAlike s t) :
    startsCased t = startsCased s
      ∧ ∀ afterCased,
        foldUmlauts (lowerAfter afterCased t) = foldUmlauts (lowerAfter afterCased s) := by
  induction h with
  | nil => exact ⟨rfl, fun _ => rfl⟩
  | keep c _ ih =>
      -- the character may be a sigma, which looks at what starts behind it
      obtain ⟨hcased, hlower⟩ := ih
      refine ⟨by rw [startsCased, startsCased, hcased], fun afterCased => ?_⟩
      simp only [lowerAfter, foldUmlauts_append, hcased, hlower]
  | recase hc hd hcase _ ih =>
      refine ⟨by rw [Text.startsCased_letter hc, Text.startsCased_letter hd], fun afterCased => ?_⟩
      rw [Text.lowerAfter_letter hc, Text.lowerAfter_letter hd, foldUmlauts_append,
        foldUmlauts_append, hcase, ih.2]
  | write hw _ ih =>
      obtain ⟨hc, hne, hletters, hfold⟩ := letters_of_spellings hw
      refine ⟨?_, fun afterCased => ?_⟩
      · rw [Text.startsCased_letters hletters hne, Text.startsCased_letter hc]
      · rw [Text.lowerAfter_letters hletters hne, Text.lowerAfter_letter hc, foldUmlauts_append,
          foldUmlauts_append, hfold, normalChar, ih.2]

theorem SpelledAlike.normalName_eq (h : SpelledAlike s t) :
    normalName (some t) = normalName (some s) := by
  rw [Matching.normalName_eq, Matching.normalName_eq, Text.lower, Text.lower,
    h.foldUmlauts_lowerAfter.2]

theorem normalName_append_blanks (hw : Blanks w) (t : Text) :
    normalName (some (t ++ w)) = normalName (some t) := by
  rw [normalName, normalName, Option.getD_some, Option.getD_some, Text.lower_append_blanks hw,
    Text.stripRight_append_blanks hw]

/-! ## Names of contacts -/

/-- A text stands in at most one of two letters, unless it is empty. So a name that stood in every
counterparty would be empty. -/
theorem exists_counterparty_without (hne : t ≠ []) : ∃ counterparty : Text,
    Text.isBlankText counterparty = false
      ∧ Text.occursIn t (normalName (some counterparty)) = false := by
  have hplain : ∀ c ∈ ['a', 'b'], Text.isBlankText [c] = false ∧ normalName (some [c]) = [c] := by
    decide +kernel
  obtain ⟨c, hc, hother⟩ : ∃ c ∈ ['a', 'b'], t ≠ [c] := by
    by_cases ha : t = ['a']
    · exact ⟨'b', by decide, by rw [ha]; decide⟩
    · exact ⟨'a', by decide, ha⟩
  refine ⟨[c], (hplain c hc).1, ?_⟩
  rw [(hplain c hc).2, Bool.eq_false_iff, ne_eq, Text.occursIn_iff]
  intro hwithin
  rcases List.sublist_singleton.mp hwithin.sublist with hnil | hsame
  · exact hne hnil
  · exact hother hsame

/-- The normal form stands for all spellings of a text: it is its own normal form, it is the same
with the umlauts written out, in other spellings and with blanks at the end, and it is empty for
blank texts alone. So there is no name in the table of a classifier that every counterparty
contains. -/
theorem normalName_canonical (k : Classifier) (x : Text) :
    normalName (some (normalName (some x))) = normalName (some x)
      ∧ normalName (some (foldUmlauts x)) = normalName (some x)
      ∧ (∀ y, SpelledAlike x y → normalName (some y) = normalName (some x))
      ∧ (∀ w, Blanks w → normalName (some (x ++ w)) = normalName (some x))
      ∧ (normalName (some x) = [] ↔ Text.isBlankText x = true)
      ∧ ∀ name c, (name, c) ∈ k.namedContacts → ∃ counterparty : Text,
          Text.isBlankText counterparty = false
            ∧ Text.occursIn name (normalName (some counterparty)) = false := by
  refine ⟨(isNormal_normalName (some x)).normalName_eq, (spelledAlike_foldUmlauts x).normalName_eq,
    fun y hy => hy.normalName_eq, fun w hw => normalName_append_blanks hw x, normalName_eq_nil_iff,
    fun name c hnamed => exists_counterparty_without ?_⟩
  obtain ⟨contact, hcontact, hname⟩ := List.mem_map.mp hnamed
  cases hname
  rw [ne_eq, normalName_eq_nil_iff]
  simpa using (List.mem_filter.mp hcontact).2

/-- A capital sharp s, a sigma at the end and a wide blank behind it. -/
theorem normalName_canonical_weiss :
    let k := { Household.classifier with contacts := [Household.holder, Household.weiss] }
    let named := "weiss ας".toList
    normalName (some "WEIẞ ΑΣ".toList) = named
      ∧ normalName (some "WEISs ΑΣ".toList) = named
      ∧ normalName (some "WEIẞ ΑΣ\u3000".toList) = named
      ∧ normalName (some named) = named
      ∧ ("autohaus weiss".toList, Household.weiss) ∈ k.namedContacts
      ∧ ∃ counterparty : Text, Text.isBlankText counterparty = false
        ∧ Text.occursIn "autohaus weiss".toList (normalName (some counterparty)) = false := by
  intro k named
  obtain ⟨hagain, -, hspelled, hblanks, -, hnamed⟩ := normalName_canonical k "WEIẞ ΑΣ".toList
  have hx : normalName (some "WEIẞ ΑΣ".toList) = named := by decide +kernel
  have hy : SpelledAlike "WEIẞ ΑΣ".toList "WEISs ΑΣ".toList :=
    .keep 'W' (.keep 'E' (.keep 'I' (.write (w := "Ss".toList) (by decide)
      (.keep ' ' (.keep 'Α' (.keep 'Σ' .nil))))))
  have hmem : ("autohaus weiss".toList, Household.weiss) ∈ k.namedContacts := by decide +kernel
  rw [hx] at hagain hspelled hblanks
  exact ⟨hx, hspelled _ hy, hblanks ['\u3000'] (Text.isBlankText_iff.mp (by decide)), hagain, hmem,
    hnamed _ Household.weiss hmem⟩

end Matching

end BankStatement
