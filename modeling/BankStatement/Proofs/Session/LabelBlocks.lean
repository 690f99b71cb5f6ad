import BankStatement.Proofs.Reading.Labels
import BankStatement.Proofs.Session.Growth
import BankStatement.Proofs.Session.Passage

/-!
# Blocks of labels

The lines of a key-value section are looked up one after the other, and the values that they have
for one place of the header are joined in the order of the lines (`feedAll_labels`). Where each
place belongs to one key, the key's mode decides which of them stays: the last one
(`Mode.foldl_always`), or the first one that is not empty, unless the place was taken before
(`Mode.foldl_onlyWhenEmpty`).

`Proofs.Reading.Labels` says what one line has for a key, by the parts between the separators; this
module is about many lines (`labels_assigned`). The order of lines and keys does not matter to
places of different keys, so the entries of a block can be sorted by place before they are joined
(`flatMap_entryFor`). That needs the keys to go to different places. Where two keys share one, the
joined list still says what stays, but it mixes the values of both.

Only texts of the header are covered. Dates of the period have to be converted and can fail, and a
failing line stops the look-up in the middle; `Proofs.Session.Rejection` is about what such a line
leaves behind.
-/

namespace BankStatement

/-! ## Joining several values -/

theorem Mode.foldl_always (values : List Text) (old : Option Text) :
    values.foldl Mode.always.join old = values.getLast?.or old := by
  induction values generalizing old with
  | nil => rfl
  | cons value values ih =>
      have hjoin : Mode.always.join old value = some value := by
        simp [Mode.join, Mode.merge]
      rw [List.foldl_cons, ih, hjoin, List.getLast?_cons]
      cases values.getLast? <;> rfl

theorem Mode.foldl_onlyWhenEmpty (values : List Text) (old : Option Text) :
    values.foldl Mode.onlyWhenEmpty.join old
      = if Text.isFilled old then old
        else (values.find? (!·.isEmpty)).or (values.getLast?.or old) := by
  induction values generalizing old with
  | nil => simp
  | cons value values ih =>
      rw [List.foldl_cons, ih]
      cases hold : Text.isFilled old with
      | true => simp [Mode.join, Mode.merge, hold]
      | false =>
          have hjoin : Mode.onlyWhenEmpty.join old value = some value := by
            simp [Mode.join, Mode.merge, hold]
          have hfilled : Text.isFilled (some value) = !value.isEmpty := rfl
          rw [hjoin, hfilled, List.find?_cons, List.getLast?_cons]
          cases hvalue : value.isEmpty with
          | false => simp
          | true =>
              simp only [Bool.not_true, Bool.false_eq_true, if_false]
              cases values.getLast? <;> rfl

/-- The values that some lines have for a key, in the form in which a place holds them. -/
def Key.values (separator : Text) (lines : List Text) (v : HeaderVariable) (key : Key) :
    List Text :=
  lines.filterMap fun line => (key.value? separator line).map v.clean

/-- The keys of a section go to texts of the header, each to another one. -/
structure Section.LabelsTexts (sec : Section) : Prop where
  texts : Key.AllText sec.keys
  distinct : (sec.keys.filterMap (·.target.headerVariable?)).Nodup

namespace Session

variable {policy : Option Continuation} {sec : Section} {line separator : Text} {lines : List Text}
  {s : Session} {header : Header} {key : Key} {v : HeaderVariable}

theorem feed_label (policy : Option Continuation) (hst : s.stage = .keyValue)
    (hcur : s.current = some sec) (hfull : Text.isBlankText (trimLineEnd line) = false)
    (hinside : sec.endsAt (trimLineEnd line) = false)
    (hread : sec.readKeyValue s.template (trimLineEnd line) s.header = (header, .ok ())) :
    s.feed policy line = ({ s with header, lineNo := s.lineNo + 1 }, .ok []) := by
  have hvisit : ({ s with lineNo := s.lineNo + 1 } : Session).visit policy sec (trimLineEnd line)
      = ({ s with header, lineNo := s.lineNo + 1 }, .ok ⟨[], true⟩) := by
    unfold visit
    simp only [hst, hfull, hinside, hread, Bool.or_self, Bool.false_eq_true, if_false]
  have hline := (readLine_of_section (s := { s with lineNo := s.lineNo + 1 }) policy
    (trimLineEnd line) (by simp [hst]) hcur).1
  rw [feed, hline, hvisit]
  rfl

/-- The lines of a block are looked up without a fault, and their values are joined in order. -/
theorem feedAll_labels (policy : Option Continuation) (hsep : sec.separator = .text separator)
    (hkeys : Key.AllText sec.keys) (hst : s.stage = .keyValue) (hcur : s.current = some sec)
    (hlines : ∀ line ∈ lines, Text.isBlankText (trimLineEnd line) = false
      ∧ sec.endsAt (trimLineEnd line) = false) :
    ∃ header, s.feedAll policy lines
        = .ok ({ s with header, lineNo := s.lineNo + lines.length }, [])
      ∧ (∀ v, header.entry v
        = ((lines.map trimLineEnd).flatMap fun line =>
            sec.keys.filterMap (·.entryFor separator line v)).foldl
          (fun old new => new.1.join old new.2) (s.header.entry v))
      ∧ s.header.SamePeriod header := by
  induction lines generalizing s with
  | nil => exact ⟨s.header, rfl, fun _ => rfl, rfl, rfl⟩
  | cons line lines ih =>
      obtain ⟨⟨hfull, hinside⟩, hlines⟩ := List.forall_mem_cons.mp hlines
      obtain ⟨next, hread, hentry, hperiod⟩ := readKeys_entry s.template separator
        (trimLineEnd line) hkeys s.header
      have hread' : sec.readKeyValue s.template (trimLineEnd line) s.header = (next, .ok ()) := by
        rw [Section.readKeyValue, hsep]
        exact hread
      have hfirst := feed_label policy hst hcur hfull hinside hread'
      obtain ⟨header, hrest, hentries, hperiod'⟩ :=
        ih (s := { s with header := next, lineNo := s.lineNo + 1 }) hst hcur hlines
      refine ⟨header, ?_, fun v => ?_, hperiod.trans hperiod'⟩
      · rw [feedAll_cons _ hfirst, hrest, List.length_cons, Nat.add_right_comm, Nat.add_assoc]
        rfl
      · rw [hentries, hentry, List.map_cons, List.flatMap_cons, List.foldl_append]

/-- What the lines of a block have for the place of a key are the key's values, if no other key has
this place. -/
theorem flatMap_entryFor (hdistinct : (sec.keys.filterMap (·.target.headerVariable?)).Nodup)
    (hkey : key ∈ sec.keys) (hv : key.target.headerVariable? = some v) (lines : List Text) :
    (lines.flatMap fun line => sec.keys.filterMap (·.entryFor separator line v))
      = (key.values separator lines v).map (key.mode, ·) := by
  induction lines with
  | nil => rfl
  | cons line lines ih =>
      rw [List.flatMap_cons, filterMap_entryFor hdistinct hkey hv, ih, Key.entryFor, if_pos hv,
        Key.values, Key.values, List.filterMap_cons]
      cases key.value? separator line <;> rfl

/-- A place for which no key has a value on any line keeps its text. -/
theorem flatMap_entryFor_eq_nil
    (hnone : ∀ key ∈ sec.keys, key.target.headerVariable? = some v → ∀ line ∈ lines,
      key.value? separator line = none) :
    (lines.flatMap fun line => sec.keys.filterMap (·.entryFor separator line v)) = [] := by
  rw [List.flatMap_eq_nil_iff]
  intro line hline
  rw [List.filterMap_eq_nil_iff]
  intro key hkey
  by_cases hv : key.target.headerVariable? = some v
  · exact Key.entryFor_of_none (hnone key hkey hv line hline) v
  · rw [Key.entryFor, if_neg hv]

/-- A key stands for its value on a line exactly if its name ends the label in front of a separator,
where the label has as many separators as the name. What a line has for its keys is assigned in
order, all of it unless something stops the look-up. So where the keys go to different texts of the
header, a block leaves each with its last value, or with its first one that is not empty where the
text was empty before, and leaves everything else alone. -/
theorem labels_assigned (sec : Section) (c : Char) (hsep : sec.separator = .text [c]) :
    (∀ key ∈ sec.keys, ∀ line value : Text, key.value? [c] line = some value ↔
      key.target.isTruthy = true ∧ ∃ name label, key.name = .text name
        ∧ line = label ++ c :: value ∧ label.count c = name.count c ∧ name <:+ label)
      ∧ (∀ (template : Template) (line : Text) (header : Header), ∃ made left,
        Key.foundAmong [c] line sec.keys = made ++ left
          ∧ (sec.readKeyValue template line header).1
            = made.foldl (Header.withLabel template) header
          ∧ ((sec.readKeyValue template line header).2 = .ok () → left = [])
          ∧ ∀ fault, (sec.readKeyValue template line header).2 = .error fault →
            Key.Stops template sec.keys (made.foldl (Header.withLabel template) header) fault left)
      ∧ (sec.LabelsTexts → ∀ (policy : Option Continuation) (s : Session) (lines : List Text),
        s.stage = .keyValue → s.current = some sec →
        (∀ line ∈ lines, Text.isBlankText (trimLineEnd line) = false
          ∧ sec.endsAt (trimLineEnd line) = false) →
        ∃ header, s.feedAll policy lines
            = .ok ({ s with header, lineNo := s.lineNo + lines.length }, [])
          ∧ (∀ key ∈ sec.keys, ∀ v, key.target.headerVariable? = some v →
            let values := key.values [c] (lines.map trimLineEnd) v
            let old := s.header.entry v
            (key.mode = .always → header.entry v = values.getLast?.or old)
              ∧ (key.mode = .onlyWhenEmpty → header.entry v = if Text.isFilled old then old
                else (values.find? (!·.isEmpty)).or (values.getLast?.or old)))
          ∧ (∀ v, (∀ key ∈ sec.keys, key.target.headerVariable? = some v → ∀ line ∈ lines,
              key.value? [c] (trimLineEnd line) = none) → header.entry v = s.header.entry v)
          ∧ header.periodStart = s.header.periodStart ∧ header.periodEnd = s.header.periodEnd) := by
  refine ⟨fun key _ line value => Key.value?_eq_some_iff, fun template line header => ?_,
    fun hlabels policy s lines hst hcur hlines => ?_⟩
  · rw [Section.readKeyValue, hsep]
    exact exists_made_of_readKeys [c] line sec.keys header
  · obtain ⟨header, hfeed, hentry, hperiod⟩ :=
      feedAll_labels policy hsep hlabels.texts hst hcur hlines
    refine ⟨header, hfeed, fun key hkey v hv => ?_, fun v hnone => ?_, hperiod.start_eq,
      hperiod.end_eq⟩
    · have hvalues : header.entry v = (key.values [c] (lines.map trimLineEnd) v).foldl
          key.mode.join (s.header.entry v) := by
        rw [hentry, flatMap_entryFor hlabels.distinct hkey hv, List.foldl_map]
      refine ⟨fun hmode => ?_, fun hmode => ?_⟩
      · rw [hvalues, hmode, Mode.foldl_always]
      · rw [hvalues, hmode, Mode.foldl_onlyWhenEmpty]
    · rw [hentry, flatMap_entryFor_eq_nil]
      · rfl
      · intro key hkey hv line hline
        obtain ⟨line', hline', rfl⟩ := List.mem_map.mp hline
        exact hnone key hkey hv line' hline'

end Session

/-! ## A block with a name in two parts -/

/-- Labels of an account, one of them with the separator in its name. -/
def Section.accountLabels : Section where
  name := .ofString "Account"
  kind := .keyValue
  keys := [.always "Account;No" "BankAccountNo", .first "Holder" "AccountHolder"]

theorem Section.labelsTexts_accountLabels : Section.accountLabels.LabelsTexts where
  texts := by
    intro key hkey _
    simp only [Section.accountLabels, List.mem_cons, List.not_mem_nil, or_false] at hkey
    rcases hkey with rfl | rfl
    · exact ⟨⟨_, rfl⟩, .accountNumber, rfl, rfl⟩
    · exact ⟨⟨_, rfl⟩, .accountHolder, rfl, rfl⟩
  distinct := by decide

namespace Session

/-- The last account number stays and the first holder that is given, and a separator in a value is
part of it. -/
theorem labels_assigned_accountLabels :
    let lines := ["Account;No;47 11", "Holder; ", "Holder;Ann;Bob", "Holder;Eve",
      "Account;No;08 15"].map (·.toList)
    let s : Session := { start (.dated false "x") ⟨2024, 12, 31, by decide⟩ with
      stage := .keyValue, current := some .accountLabels }
    Section.accountLabels.separator = .text [';']
      ∧ Section.accountLabels.LabelsTexts
      ∧ (∀ line ∈ lines, Text.isBlankText (trimLineEnd line) = false
        ∧ Section.accountLabels.endsAt (trimLineEnd line) = false)
      ∧ ∃ header, s.feedAll none lines = .ok ({ s with header, lineNo := 5 }, [])
        ∧ header.entry .accountNumber = some "0815".toList
        ∧ header.entry .accountHolder = some "Ann;Bob".toList := by
  intro lines s
  have hlines : ∀ line ∈ lines, Text.isBlankText (trimLineEnd line) = false
      ∧ Section.accountLabels.endsAt (trimLineEnd line) = false := by
    decide +kernel
  obtain ⟨-, -, hblock⟩ := labels_assigned .accountLabels ';' rfl
  obtain ⟨header, hfeed, hkeys, -⟩ :=
    hblock Section.labelsTexts_accountLabels none s lines rfl rfl hlines
  have hnumber := (hkeys (.always "Account;No" "BankAccountNo") (by simp [Section.accountLabels])
    .accountNumber rfl).1 rfl
  have hholder := (hkeys (.first "Holder" "AccountHolder") (by simp [Section.accountLabels])
    .accountHolder rfl).2 rfl
  refine ⟨rfl, Section.labelsTexts_accountLabels, hlines, header, hfeed, ?_, ?_⟩
  · rw [hnumber]
    decide +kernel
  · rw [hholder]
    decide +kernel

end Session

end BankStatement
