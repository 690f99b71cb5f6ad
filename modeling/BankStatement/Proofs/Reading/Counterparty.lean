import BankStatement.Proofs.Reading.Assignments
import BankStatement.Proofs.Text.Replacing
import BankStatement.Proofs.Text.Splitting
import Mathlib.Logic.Function.Iterate

/-!
# How a counterparty grows

A counterparty is given in pieces, and each piece is joined to those before it and the whole is
corrected. So a piece is corrected once for itself and once more for every value that comes behind
it (`Template.recorrected`). Corrections that leave what they have written alone do not show this;
those that find their own text in it do, and a name that is continued on the next line is not what
it would be on one line (`not_counterparty_of_makeAll`).

The law is for corrections of words (`Replacement.KeepsWords`): they look for nothing with a blank
in it, and write something trimmed. Then the pieces are corrected on their own (`WordMap`), and
correcting the whole again is correcting each of them again. Without the assumption there is no such
law: a correction that finds its text across the blank between two pieces makes something that
neither of them has by itself.

`counterparty_of_makeAll` has two halves. The first one says what the counterparty is, for any
values and any number of them. The second one says when this is what correcting once would give. The
condition is on the corrections and the values (`Settles`) and is necessary too: where some
corrected text is not left alone, there are values for which the two differ.
-/

namespace BankStatement

/-! ## Joined pieces -/

namespace Text

theorem trimmed_of_strip? {t w : Text} (h : strip? t = some w) : Trimmed w ∧ w ≠ [] := by
  obtain ⟨rfl, hne⟩ := strip?_eq_some_iff.mp h
  exact ⟨trimmed_strip t, hne⟩

theorem joinWith_two (separator s t : Text) : joinWith separator [s, t] = s ++ separator ++ t := by
  rw [joinWith_cons _ _ (List.cons_ne_nil _ _)]
  simp [joinWith]

theorem trimmed_joinWith {parts : List Text} (h : ∀ part ∈ parts, Trimmed part ∧ part ≠ []) :
    Trimmed (joinWith [' '] parts) ∧ (parts ≠ [] → joinWith [' '] parts ≠ []) := by
  induction parts with
  | nil => exact ⟨trimmed_nil, fun hne => absurd rfl hne⟩
  | cons part parts ih =>
      obtain ⟨⟨hpart, hne⟩, hparts⟩ := List.forall_mem_cons.mp h
      cases parts with
      | nil => simpa [joinWith] using ⟨hpart, hne⟩
      | cons next parts =>
          obtain ⟨hrest, hrest'⟩ := ih hparts
          rw [joinWith_cons _ _ (List.cons_ne_nil _ _), List.append_assoc]
          exact ⟨hpart.append hrest hne (hrest' (List.cons_ne_nil _ _)) _,
            fun _ => List.append_ne_nil_of_left_ne_nil hne _⟩

/-- Joining one more value to pieces adds it to them, if there is anything in it. -/
theorem strip_joinWith {parts : List Text} (h : ∀ part ∈ parts, Trimmed part ∧ part ≠ [])
    (value : Text) :
    strip (joinWith [' '] parts ++ ' ' :: strip value)
      = joinWith [' '] (parts ++ (strip? value).toList) := by
  obtain ⟨htrimmed, hne⟩ := trimmed_joinWith h
  cases hvalue : strip? value with
  | none =>
      have hnil : strip value = [] := by
        by_contra hvalue'
        rw [strip?_eq_some_iff.mpr ⟨rfl, hvalue'⟩] at hvalue
        cases hvalue
      have hstrip := strip_blanks blanks_nil blanks_blank (joinWith [' '] parts)
      rw [List.nil_append] at hstrip
      rw [hnil, hstrip, strip_of_trimmed htrimmed, Option.toList_none, List.append_nil]
  | some w =>
      obtain ⟨hw, hw'⟩ := strip?_eq_some_iff.mp hvalue
      rw [Option.toList_some]
      by_cases hparts : parts = []
      · subst hparts
        rw [List.nil_append, ← hw]
        simpa [joinWith] using strip_blank_cons value
      · have hall : Trimmed (joinWith [' '] parts ++ ([' '] ++ strip value)) :=
          htrimmed.append (trimmed_strip value) (hne hparts) (hw ▸ hw') [' ']
        rw [joinWith_append _ hparts (List.cons_ne_nil _ _), ← List.singleton_append (l := strip _),
          strip_of_trimmed hall, hw, List.append_assoc]
        simp [joinWith]

end Text

/-! ## Corrections of words -/

/-- A map of texts that goes through them word by word. -/
structure WordMap (g : Text → Text) : Prop where
  nil : g [] = []
  append : ∀ t u, g (t ++ ' ' :: u) = g t ++ ' ' :: g u
  trimmed : ∀ t, Text.Trimmed t → Text.Trimmed (g t)
  ne_nil : ∀ t, t ≠ [] → g t ≠ []

namespace WordMap

variable {g h : Text → Text}

theorem id : WordMap fun t => t := ⟨rfl, fun _ _ => rfl, fun _ ht => ht, fun _ ht => ht⟩

theorem comp (hg : WordMap g) (hh : WordMap h) : WordMap fun t => h (g t) where
  nil := by rw [hg.nil, hh.nil]
  append t u := by rw [hg.append, hh.append]
  trimmed t ht := hh.trimmed _ (hg.trimmed t ht)
  ne_nil t ht := hh.ne_nil _ (hg.ne_nil t ht)

theorem replace {search replacement : Text} (hne : search ≠ []) (hblank : ' ' ∉ search)
    (hr : Text.Trimmed replacement) (hr' : replacement ≠ []) :
    WordMap (Text.replace search replacement) where
  nil := Text.replace_of_ne_nil hne replacement []
  append := Text.replace_append_cons hne hblank replacement
  trimmed _ ht := Text.trimmed_replace hne hr hr' ht
  ne_nil _ ht := Text.replace_ne_nil hne hr' ht

theorem joinWith (hg : WordMap g) (parts : List Text) :
    g (Text.joinWith [' '] parts) = Text.joinWith [' '] (parts.map g) := by
  induction parts with
  | nil => exact hg.nil
  | cons part parts ih =>
      cases parts with
      | nil => simp [Text.joinWith]
      | cons next parts =>
          rw [Text.joinWith_cons _ _ (List.cons_ne_nil _ _), List.append_assoc,
            List.singleton_append, hg.append, ih, List.map_cons (l := next :: parts),
            Text.joinWith_cons _ _ (by simp), List.append_assoc, List.singleton_append]

end WordMap

/-- A correction of words: it looks for nothing with a blank in it, and what it writes instead is
trimmed and not empty. -/
def Replacement.KeepsWords (r : Replacement) : Prop :=
  ∃ search replacement, r.search = .text search ∧ r.replacement = .text replacement
    ∧ ' ' ∉ search ∧ Text.Trimmed replacement ∧ replacement ≠ []

theorem Replacement.KeepsWords.wordMap {r : Replacement} (h : r.KeepsWords) :
    ∃ g, (∀ t, r.apply t = .ok (g t)) ∧ WordMap g := by
  obtain ⟨search, replacement, hsearch, hreplacement, hblank, hr, hr'⟩ := h
  cases search with
  | nil =>
      refine ⟨fun t => t, fun t => ?_, WordMap.id⟩
      rw [apply, hsearch]
      rfl
  | cons c search =>
      refine ⟨Text.replace (c :: search) replacement, fun t => ?_,
        .replace (List.cons_ne_nil _ _) hblank hr hr'⟩
      rw [apply, hsearch, hreplacement]
      rfl

namespace Template

/-- All corrections of a template are corrections of words. -/
def KeepsWords (template : Template) : Prop := ∀ r ∈ template.replacements, r.KeepsWords

/-- A text with the corrections of a template, where they can be made. -/
def corrected (template : Template) (t : Text) : Text := (template.correct t).toOption.getD t

theorem exists_wordMap {rs : List Replacement} (h : ∀ r ∈ rs, r.KeepsWords) :
    ∃ g, (∀ t, rs.foldlM (fun t r => r.apply t) t = .ok (g t)) ∧ WordMap g := by
  induction rs with
  | nil => exact ⟨fun t => t, fun t => rfl, WordMap.id⟩
  | cons r rs ih =>
      obtain ⟨hr, hrs⟩ := List.forall_mem_cons.mp h
      obtain ⟨g, hg, hg'⟩ := hr.wordMap
      obtain ⟨k, hk, hk'⟩ := ih hrs
      refine ⟨fun t => k (g t), fun t => ?_, hg'.comp hk'⟩
      rw [List.foldlM_cons, hg]
      exact hk (g t)

variable {template : Template}

theorem KeepsWords.correct (h : template.KeepsWords) (t : Text) :
    template.correct t = .ok (template.corrected t) := by
  obtain ⟨g, hg, -⟩ := exists_wordMap h
  rw [corrected, Template.correct, hg]
  rfl

theorem KeepsWords.wordMap (h : template.KeepsWords) : WordMap template.corrected := by
  obtain ⟨g, hg, hg'⟩ := exists_wordMap h
  have hsame : template.corrected = g := by
    funext t
    rw [corrected, Template.correct, hg]
    rfl
  rwa [hsame]

/-! ## Growing -/

/-- The pieces of a counterparty, each corrected once for itself and once more for every value
behind it. Blank values are no pieces, but count. -/
def recorrected (template : Template) : List Text → List Text
  | [] => []
  | value :: values =>
    ((Text.strip? value).map template.corrected^[values.length + 1]).toList
      ++ template.recorrected values

def grow (template : Template) (parts : List Text) (value : Text) : List Text :=
  (parts ++ (Text.strip? value).toList).map template.corrected

theorem foldl_grow (template : Template) (parts values : List Text) :
    values.foldl template.grow parts
      = parts.map template.corrected^[values.length] ++ template.recorrected values := by
  induction values generalizing parts with
  | nil => simp [recorrected]
  | cons value values ih =>
      rw [List.foldl_cons, ih, grow, List.map_map, ← Function.iterate_succ, List.map_append,
        recorrected, List.append_assoc]
      cases Text.strip? value <;> rfl

/-- A corrected text that is left alone by the corrections. -/
def Settles (template : Template) (t : Text) : Prop :=
  template.corrected (template.corrected t) = template.corrected t

theorem Settles.iterate {t : Text} (h : template.Settles t) (n : Nat) :
    template.corrected^[n + 1] t = template.corrected t := by
  rw [Function.iterate_succ_apply]
  exact Function.iterate_fixed h n

/-- Where all values but the last settle, correcting their pieces again changes nothing. The last
one is corrected only once in any case, so nothing is asked of it. -/
theorem joinWith_recorrected (hwords : template.KeepsWords) {values : List Text}
    (h : ∀ value ∈ values.dropLast, template.Settles (Text.strip value)) :
    Text.joinWith [' '] (template.recorrected values)
      = template.corrected (Text.joinWith [' '] (values.filterMap Text.strip?)) := by
  rw [hwords.wordMap.joinWith]
  congr 1
  induction values with
  | nil => rfl
  | cons value values ih =>
      have hrest : ∀ v ∈ values.dropLast, template.Settles (Text.strip v) := by
        intro v hv
        refine h v ?_
        cases values with
        | nil => cases hv
        | cons next values => exact List.mem_cons_of_mem _ hv
      have hvalue : (Text.strip? value).map template.corrected^[values.length + 1]
          = (Text.strip? value).map template.corrected := by
        cases hstrip : Text.strip? value with
        | none => rfl
        | some w =>
            obtain ⟨rfl, -⟩ := Text.strip?_eq_some_iff.mp hstrip
            cases values with
            | nil => rfl
            | cons next values =>
                exact congrArg some ((h value List.mem_cons_self).iterate _)
      rw [recorrected, hvalue, ih hrest, List.filterMap_cons]
      cases Text.strip? value <;> rfl

end Template

namespace Assignment

variable {template : Template} {a : Assignment} {as : List Assignment} {m : Movement}
  {parts : List Text}

theorem make_counterparty (hname : a.target = .ofString "SourceName") {t : Text} (header : Header)
    (h : template.correct (Text.strip (m.counterparty.getD [] ++ ' ' :: Text.strip a.value))
      = .ok t) :
    a.make template ⟨header, some m⟩ = .ok ⟨header, some { m with counterparty := some t }⟩ := by
  unfold make Target.assignNamed
  rw [hname]
  simp only [Value.ofString]
  rw [show "SourceName".toList = MovementVariable.counterparty.label from rfl,
    Target.assign_of_places (placesIn_label _) (Movement.assign_counterparty_of h)]
  rfl

theorem correct_grow (hwords : template.KeepsWords)
    (hparts : ∀ part ∈ parts, Text.Trimmed part ∧ part ≠ [])
    (hm : m.counterparty.getD [] = Text.joinWith [' '] parts) {value : Text} :
    template.correct (Text.strip (m.counterparty.getD [] ++ ' ' :: Text.strip value))
      = .ok (Text.joinWith [' '] (template.grow parts value)) := by
  rw [hm, Text.strip_joinWith hparts, hwords.correct, hwords.wordMap.joinWith]
  rfl

theorem trimmed_grow (hwords : template.KeepsWords)
    (hparts : ∀ part ∈ parts, Text.Trimmed part ∧ part ≠ []) (value : Text) :
    ∀ part ∈ template.grow parts value, Text.Trimmed part ∧ part ≠ [] := by
  intro part hpart
  obtain ⟨piece, hpiece, rfl⟩ := List.mem_map.mp hpart
  have hboth : Text.Trimmed piece ∧ piece ≠ [] := by
    rcases List.mem_append.mp hpiece with hold | hnew
    · exact hparts piece hold
    · exact Text.trimmed_of_strip? (Option.mem_toList.mp hnew)
  exact ⟨hwords.wordMap.trimmed _ hboth.1, hwords.wordMap.ne_nil _ hboth.2⟩

theorem makeAll_counterparty (hwords : template.KeepsWords) (header : Header) (parts : List Text)
    (hparts : ∀ part ∈ parts, Text.Trimmed part ∧ part ≠ [])
    (hm : m.counterparty.getD [] = Text.joinWith [' '] parts)
    (hnames : ∀ b ∈ a :: as, b.target = .ofString "SourceName") :
    makeAll template (a :: as) ⟨header, some m⟩
      = (⟨header, some { m with counterparty := some (Text.joinWith [' ']
          (((a :: as).map (·.value)).foldl template.grow parts)) }⟩, .ok ()) := by
  induction as generalizing a m parts with
  | nil =>
      obtain ⟨ha, -⟩ := List.forall_mem_cons.mp hnames
      rw [makeAll, make_counterparty ha header (correct_grow hwords hparts hm)]
      rfl
  | cons b as ih =>
      obtain ⟨ha, hrest⟩ := List.forall_mem_cons.mp hnames
      rw [makeAll, make_counterparty ha header (correct_grow hwords hparts hm)]
      exact ih _ (trimmed_grow hwords hparts a.value) rfl hrest

/-- Values for a counterparty that has none are corrected again with every value behind them. So the
pieces are corrected once, as they would be together on one line, when the corrections leave what
they have written alone; and unless they always do so, there are values for which they are not. -/
theorem counterparty_of_makeAll (hwords : template.KeepsWords) (hne : as ≠ [])
    (hnames : ∀ a ∈ as, a.target = .ofString "SourceName") (header : Header)
    (hfresh : m.counterparty = none) :
    makeAll template as ⟨header, some m⟩
        = (⟨header, some { m with counterparty := some (Text.joinWith [' ']
            (template.recorrected (as.map (·.value)))) }⟩, .ok ())
      ∧ ((∀ a ∈ as.dropLast, template.Settles (Text.strip a.value)) →
        Text.joinWith [' '] (template.recorrected (as.map (·.value)))
          = template.corrected (Text.joinWith [' ']
            ((as.map (·.value)).filterMap Text.strip?)))
      ∧ ((∀ values, Text.joinWith [' '] (template.recorrected values)
            = template.corrected (Text.joinWith [' '] (values.filterMap Text.strip?)))
        ↔ ∀ t, Text.Trimmed t → template.Settles t) := by
  obtain ⟨a, as, rfl⟩ := List.exists_cons_of_ne_nil hne
  refine ⟨?_, fun hsettles => ?_, ?_⟩
  · rw [makeAll_counterparty hwords header [] (by simp) (by rw [hfresh]; rfl) hnames,
      Template.foldl_grow, List.map_nil, List.nil_append]
  · refine Template.joinWith_recorrected hwords fun value hvalue => ?_
    rw [← List.map_dropLast] at hvalue
    obtain ⟨b, hb, rfl⟩ := List.mem_map.mp hvalue
    exact hsettles b hb
  · constructor
    · intro hall t ht
      by_cases hnil : t = []
      · rw [hnil, Template.Settles, hwords.wordMap.nil]
        exact hwords.wordMap.nil
      -- one value behind the text shows what a second correction makes of it
      have hpair := hall [t, ['x']]
      have ht' : Text.strip? t = some t :=
        Text.strip?_eq_some_iff.mpr ⟨Text.strip_of_trimmed ht, hnil⟩
      have hx : Text.strip? ['x'] = some ['x'] := rfl
      rw [hwords.wordMap.joinWith, Template.recorrected, Template.recorrected, ht', hx] at hpair
      simp only [List.filterMap_cons, ht', hx, List.filterMap_nil, List.map_cons,
        List.map_nil] at hpair
      have htwo := (Text.joinWith_two [' '] _ _).symm.trans (hpair.trans (Text.joinWith_two ..))
      exact List.append_cancel_right (List.append_cancel_right htwo)
    · intro hsettles values
      exact Template.joinWith_recorrected hwords fun value _ =>
        hsettles _ (Text.trimmed_strip value)

end Assignment

/-! ## A missing full stop -/

/-- A layout that writes the full stop behind an abbreviation where it is missing. -/
def Template.abbreviated : Template where
  name := .ofString "Abbreviated"
  source := .ofString "Text"
  sections := []
  replacements := [{ search := .ofString "Inh", replacement := .ofString "Inh." }]

theorem Template.keepsWords_abbreviated : Template.abbreviated.KeepsWords := by
  intro r hr
  rw [List.mem_singleton.mp hr]
  exact ⟨"Inh".toList, "Inh.".toList, rfl, rfl, by decide, by decide, by decide⟩

namespace Assignment

def owner : List Assignment := [
  ⟨.ofString "SourceName", "Inh Meier".toList, 1⟩,
  ⟨.ofString "SourceName", "Berlin".toList, 1⟩]

theorem names_owner : ∀ a ∈ owner, a.target = .ofString "SourceName" := by
  simp [owner]

/-- The second line brings a second full stop. -/
theorem counterparty_of_makeAll_owner :
    Template.abbreviated.KeepsWords
      ∧ makeAll .abbreviated owner ⟨{}, some {}⟩
        = (⟨{}, some { counterparty := some "Inh.. Meier Berlin".toList }⟩, .ok ()) := by
  obtain ⟨hall, -⟩ := counterparty_of_makeAll Template.keepsWords_abbreviated
    (List.cons_ne_nil _ _) names_owner {} (m := {}) rfl
  refine ⟨Template.keepsWords_abbreviated, hall.trans ?_⟩
  rfl

/-- Corrected once, the name has one full stop. -/
theorem not_counterparty_of_makeAll : ¬ ∀ (template : Template) (as : List Assignment)
    (header : Header) (m : Movement) (t : Text), as ≠ [] →
    (∀ a ∈ as, a.target = .ofString "SourceName") → m.counterparty = none →
    template.correct (Text.joinWith [' '] ((as.map (·.value)).filterMap Text.strip?)) = .ok t →
    makeAll template as ⟨header, some m⟩
      = (⟨header, some { m with counterparty := some t }⟩, .ok ()) := by
  intro hall
  have honce := hall .abbreviated owner {} {} "Inh. Meier Berlin".toList (List.cons_ne_nil _ _)
    names_owner rfl rfl
  have htwice : makeAll .abbreviated owner ⟨{}, some {}⟩
      = (⟨{}, some { counterparty := some "Inh.. Meier Berlin".toList }⟩, .ok ()) := by
    rfl
  rw [htwice] at honce
  have hsame := congrArg (fun out => out.1.movement.bind (·.counterparty)) honce
  exact absurd hsame (by decide)

end Assignment

end BankStatement
