import BankStatement.Proofs.Session.HoldingBack
import BankStatement.Proofs.Session.OtherSections

/-!
# Continuation policies and dynamic tables

No line of a dynamic table is folded onto a held movement: a policy takes care of continuation lines
in tables only. But whether additional rules are tried on the line of their primary match is decided
by whether there is a policy at all, and so under a policy the additional rules of a dynamic table
are tried nowhere.

`Template.primaryOnly` is the template without its additional rules. Among templates without tables,
reading with a policy is reading the template without additional rules (`run_policy_of_noTables`),
which is not what the template says (`not_run_policy_dynamic`).

The statement is an equality of runs and not only a difference at one input: it says what takes the
place of the behaviour that was meant, for every template and all lines. Its proof is a lockstep in
which nothing is ever owed, for without tables nothing is held. The pairing maps a session to the
one that reads the other template, so the two steps that carry the argument are about one line
(`dynamicLine_primaryOnly`) and about one look (`visit_primaryOnly`); all else is that sections are
entered and left at the same lines.
-/

namespace BankStatement

/-- The record sections of a template are dynamic tables. -/
def Template.HasNoTables (template : Template) : Prop :=
  ∀ sec ∈ template.sections, sec.kind ≠ .table

def Column.isAdditional : Column → Bool
  | .field _ => false
  | .rule r => r.role == .additional

/-- A section without its additional rules. -/
def Section.primaryOnly (s : Section) : Section :=
  { s with columns := s.columns.filter (!·.isAdditional) }

def Template.primaryOnly (template : Template) : Template :=
  template.withSections (template.sections.map Section.primaryOnly)

namespace Section

theorem fields_primaryOnly (s : Section) : s.primaryOnly.fields = s.fields := by
  simp only [fields, primaryOnly, List.filterMap_filter]
  congr 1
  funext column
  cases column <;> simp [Column.isAdditional]

theorem rules_primaryOnly (s : Section) : s.primaryOnly.rules = s.rulesOf .primary := by
  simp only [rulesOf, rules, primaryOnly, List.filterMap_filter, List.filter_filterMap]
  congr 1
  funext column
  cases column with
  | field => simp
  | rule r => cases hrole : r.role <;> simp [Column.isAdditional, Option.filter, hrole]

theorem rulesOf_primaryOnly (s : Section) :
    s.primaryOnly.rulesOf .primary = s.rulesOf .primary := by
  rw [rulesOf, rules_primaryOnly, rulesOf, List.filter_filter]
  simp

theorem additional_primaryOnly (s : Section) : s.primaryOnly.rulesOf .additional = [] := by
  rw [rulesOf, rules_primaryOnly, rulesOf, List.filter_filter, List.filter_eq_nil_iff]
  intro r _ hr
  cases hrole : r.role <;> simp [hrole] at hr

/-- There is nothing to leave out where there are no additional rules. -/
theorem primaryOnly_of_no_additional {s : Section} (hrules : s.rulesOf .additional = []) :
    s.primaryOnly = s := by
  have hcolumns : ∀ column ∈ s.columns, (!column.isAdditional) = true := by
    intro column hcolumn
    cases column with
    | field => rfl
    | rule r =>
        have hr : r ∈ s.rules := List.mem_filterMap.mpr ⟨.rule r, hcolumn, rfl⟩
        have hno := List.filter_eq_nil_iff.mp hrules r hr
        simpa [Column.isAdditional] using hno
  rw [primaryOnly, List.filter_eq_self.mpr hcolumns]

/-- Whether or not additional rules are tried, without them a line says what fields and primary
rules say. -/
theorem readRecord_primaryOnly (s : Section) (template : Template) (secs : List Section)
    (today : Date) (withAdditional : Bool) (line : Text) (header : Header) :
    s.primaryOnly.readRecord (template.withSections secs) today withAdditional line header
      = s.readRecord template today false line header := by
  rw [readRecord_withSections,
    readRecord_of_no_additional s.additional_primaryOnly _ _ withAdditional false]
  simp only [readRecord, takeValues, walkFields, fields_primaryOnly, rulesOf_primaryOnly,
    Bool.and_false, Bool.false_eq_true, if_false]
  rfl

end Section

theorem Template.primaryOnly_of_no_additional {template : Template}
    (hno : template.HasNoAdditional) : template.primaryOnly = template := by
  have hsections : template.sections.map Section.primaryOnly = template.sections :=
    (List.map_congr_left fun sec hsec => Section.primaryOnly_of_no_additional (hno sec hsec)).trans
      (List.map_id _)
  rw [Template.primaryOnly, hsections]
  rfl

namespace Session

variable {c : Continuation} {sec : Section} {line : Text} {s : Session}

/-- A session in which the template has no additional rules. -/
def primaryOnly (s : Session) : Session :=
  { s with
    template := s.template.primaryOnly
    current := s.current.map Section.primaryOnly }

theorem emit?_primaryOnly (s : Session) (m? : Option Movement) :
    s.primaryOnly.emit? m? = ((s.emit? m?).1.primaryOnly, (s.emit? m?).2) := by
  have hdrop : ((s.primaryOnly.current.map (·.removeDuplicates)).getD false)
      = ((s.current.map (·.removeDuplicates)).getD false) := by
    simp only [primaryOnly, Option.map_map]
    rfl
  cases m? with
  | none => rfl
  | some m =>
      simp only [emit?, emit, hdrop]
      split
      · have hseen : s.primaryOnly.seen = s.seen := rfl
        rw [hseen]
        split <;> rfl
      · rfl

theorem endTable_primaryOnly (hs : Tidy (some c) s) (hh : s.held = none) :
    s.endTable (some c) = (s.leave, [])
      ∧ s.primaryOnly.endTable none = (s.leave.primaryOnly, []) := by
  rw [endTable_settled, settled_of_held hs hh]
  exact ⟨rfl, rfl⟩

/-- Under a policy a row of a dynamic table says what it says without additional rules. -/
theorem dynamicLine_primaryOnly (c : Continuation) (sec : Section) (line : Text) (s : Session) :
    s.primaryOnly.dynamicLine none sec.primaryOnly line
      = ((s.dynamicLine (some c) sec line).1.primaryOnly, (s.dynamicLine (some c) sec line).2) := by
  have hread : sec.primaryOnly.readRecord s.primaryOnly.template s.primaryOnly.today
        (none : Option Continuation).isNone line s.primaryOnly.header
      = sec.readRecord s.template s.today (some c).isNone line s.header :=
    sec.readRecord_primaryOnly ..
  have hlength : sec.primaryOnly.recordLength = sec.recordLength := rfl
  unfold dynamicLine
  rw [hread, hlength]
  split
  · rfl
  · split <;> rfl

/-- Outside tables a look under a policy is a look without one and without additional rules. -/
theorem visit_primaryOnly (hs : Tidy (some c) s) (hst : s.stage ≠ .table)
    (hst' : s.stage ≠ .tableHeader) :
    s.primaryOnly.visit none sec.primaryOnly line
      = ((s.visit (some c) sec line).1.primaryOnly, (s.visit (some c) sec line).2) := by
  have hh := hs.held_eq_none hst
  have hends : sec.primaryOnly.endsAt line = sec.endsAt line := rfl
  obtain ⟨hend, hend'⟩ := endTable_primaryOnly hs hh
  cases hstage : s.stage with
  | between =>
      have hstage' : s.primaryOnly.stage = .between := hstage
      simp only [visit, hstage, hstage']
  | ignoring =>
      have hstage' : s.primaryOnly.stage = .ignoring := hstage
      simp only [visit, hstage, hstage', hends]
      split
      · rfl
      · split <;> rfl
  | keyValue =>
      have hstage' : s.primaryOnly.stage = .keyValue := hstage
      have hread : sec.primaryOnly.readKeyValue s.primaryOnly.template line s.primaryOnly.header
          = sec.readKeyValue s.template line s.header := sec.readKeyValue_withSections ..
      simp only [visit, hstage, hstage', hends, hread]
      split
      · rfl
      · split <;> rfl
  | tableHeader => exact absurd hstage hst'
  | table => exact absurd hstage hst
  | dynamicTable =>
      have hstage' : s.primaryOnly.stage = .dynamicTable := hstage
      simp only [visit, hstage, hstage', hends, dynamicLine_primaryOnly c, endTableAt, hend, hend']
      split
      · rfl
      · cases s.dynamicLine (some c) sec line with
        | mk t r =>
            cases r with
            | error => rfl
            | ok m? => simp only [emit?_primaryOnly]

/-! ## The two readings -/

/-- Without tables, no session is in one. -/
theorem stage_of_noTables (hs : Tidy (some c) s) (hno : s.template.HasNoTables)
    (hcur : s.current = some sec) : s.stage ≠ .table ∧ s.stage ≠ .tableHeader := by
  have hkind := hno sec (hs.current_mem sec hcur)
  have hfits := hs.stage_fits sec hcur
  constructor
  all_goals
    intro hst
    rw [hst] at hfits
    exact hkind hfits

/-- The pairing of a session under a policy with the one without a policy and without additional
rules. -/
structure Mirrored (c : Continuation) (s t : Session) (owed : List Movement) : Prop where
  tidy : Tidy (some c) s
  no_tables : s.template.HasNoTables
  stage_ne : s.stage ≠ .table
  eq : t = s.primaryOnly
  owed_eq : owed = []

/-- A look leaves a mirrored pair of sessions mirrored. -/
theorem visit_mirrored {t : Session} {owed : List Movement} (hm : Mirrored c s t owed)
    (hcur : s.current = some sec) :
    Paced (Mirrored c) owed (s.visit (some c) sec line) (t.visit none sec.primaryOnly line) := by
  obtain ⟨hs, hno, hst, rfl, rfl⟩ := hm
  rw [visit_primaryOnly hs hst (stage_of_noTables hs hno hcur).2]
  cases hv : s.visit (some c) sec line with
  | mk u r =>
      rcases r with fault | ⟨given, usedUp⟩
      · exact .fault
      · obtain ⟨htemplate, -, hcur', -⟩ := fields_of_standing (standing_visit hv)
        have hu := tidy_visit hs hcur hv
        have hno' : u.template.HasNoTables := by rwa [htemplate]
        have hst' := (stage_of_noTables hu hno' (hcur'.trans hcur)).1
        exact .on ⟨hu, hno', hst', rfl, rfl⟩ (List.append_nil _).symm

theorem finish_mirrored {t : Session} {owed : List Movement} (hm : Mirrored c s t owed) :
    (s.finish (some c)).1.header = (t.finish none).1.header
      ∧ (s.finish (some c)).2 = owed ++ (t.finish none).2 := by
  obtain ⟨hs, -, hst, rfl, rfl⟩ := hm
  obtain ⟨hend, hend'⟩ := endTable_primaryOnly hs (hs.held_eq_none hst)
  have hstage : s.primaryOnly.stage = s.stage := rfl
  simp only [finish, hstage, hend, hend']
  split <;> exact ⟨rfl, rfl⟩

theorem upcoming_primaryOnly (s : Session) :
    s.primaryOnly.upcoming = s.upcoming.map Section.primaryOnly :=
  List.map_drop.symm

/-- Without tables, reading under a policy keeps pace with reading without a policy and without
additional rules. -/
theorem lockstep_primaryOnly (c : Continuation) :
    Lockstep (some c) none Section.primaryOnly (fun _ _ _ => True) (Mirrored c) where
  stage_eq hm := by rw [hm.eq]; rfl
  current_eq hm := by rw [hm.eq]; rfl
  upcoming_eq hm := by rw [hm.eq, upcoming_primaryOnly]
  owed_eq hm _ := hm.owed_eq
  lineNo hm := ⟨hm.tidy.lineNo _, hm.no_tables, hm.stage_ne, by rw [hm.eq]; rfl, hm.owed_eq⟩
  enter hm hst hup := by
    have hs := hm.tidy.enter hst (mem_sections_of_upcoming hup)
    exact ⟨hs, hm.no_tables, (stage_of_noTables hs hm.no_tables rfl).1, by rw [hm.eq]; rfl, rfl⟩
  exhaust hm hst := by
    have hne : ∀ s : Session, s.exhaust.stage ≠ .table := fun _ => nofun
    exact ⟨hm.tidy.exhaust hst, hm.no_tables, hne _, by rw [hm.eq]; rfl, rfl⟩
  visit hm hcur _ := visit_mirrored hm hcur
  finish hm := finish_mirrored hm

/-- Where record sections are dynamic tables, reading with a policy gives what reading without one
gives if the additional rules are left out, header, movements and faults alike. So the policy
changes nothing if there are none. -/
theorem run_policy_of_noTables (template : Template) (c : Continuation) (today : Date)
    (lines : List Text) (hno : template.HasNoTables) :
    template.run (some c) today lines = template.primaryOnly.run none today lines
      ∧ (template.HasNoAdditional →
        template.run (some c) today lines = template.run none today lines) := by
  have hm : Mirrored c (start template today) (start template.primaryOnly today) [] :=
    ⟨tidy_start (some c) template today, hno, nofun, rfl, rfl⟩
  have hfair : ∀ lines s, Throughout (some c) (fun _ _ _ => True) lines s := by
    intro lines
    induction lines with
    | nil => exact fun _ => trivial
    | cons line lines ih => exact fun _ => ⟨fun _ _ => trivial, fun _ => ih _⟩
  have hrun : template.run (some c) today lines = template.primaryOnly.run none today lines :=
    ((lockstep_primaryOnly c).conclude_eq (hfair _ _) hm).trans (after_nil _)
  refine ⟨hrun, fun hrules => ?_⟩
  rw [hrun, Template.primaryOnly_of_no_additional hrules]

end Session

/-- A layout with a dynamic table, in which an additional rule finds the name behind the date. -/
def Template.datedNames : Template where
  name := .ofString "Dated names"
  source := .ofString "Text"
  sections := [{
    name := .ofString "Rows"
    kind := .dynamicTable
    columns := [.primary "^(?P<PostingDate>\\d\\d\\.\\d\\d\\.\\d\x7b4\x7d) " 1,
      .additional "> (?P<SourceName>.*)" none] }]

theorem Template.hasNoTables_datedNames : Template.datedNames.HasNoTables := by
  simp [Template.HasNoTables, Template.datedNames]

namespace Session

/-- Both parts, at the layout and at the layout without its additional rule. -/
theorem run_policy_of_noTables_datedNames :
    Template.datedNames.HasNoTables
      ∧ Template.datedNames.run (some {}) ⟨2024, 12, 31, by decide⟩ ["01.02.2024 > Miller".toList]
        = Template.datedNames.primaryOnly.run none ⟨2024, 12, 31, by decide⟩
          ["01.02.2024 > Miller".toList]
      ∧ Template.datedNames.primaryOnly.HasNoTables
      ∧ Template.datedNames.primaryOnly.HasNoAdditional
      ∧ Template.datedNames.primaryOnly.run (some {}) ⟨2024, 12, 31, by decide⟩
          ["01.02.2024 > Miller".toList]
        = Template.datedNames.primaryOnly.run none ⟨2024, 12, 31, by decide⟩
          ["01.02.2024 > Miller".toList] := by
  have hno' : Template.datedNames.primaryOnly.HasNoTables := by
    simp [Template.HasNoTables, Template.primaryOnly, Template.withSections, Template.datedNames,
      Section.primaryOnly]
  have hrules : Template.datedNames.primaryOnly.HasNoAdditional := by
    intro sec hsec
    obtain ⟨sec', -, rfl⟩ := List.mem_map.mp hsec
    exact sec'.additional_primaryOnly
  exact ⟨Template.hasNoTables_datedNames,
    (run_policy_of_noTables _ _ _ _ Template.hasNoTables_datedNames).1, hno', hrules,
    (run_policy_of_noTables _ _ _ _ hno').2 hrules⟩

/-- A policy changes what a dynamic table says: the name on the line of the date is lost. -/
theorem not_run_policy_dynamic : ¬ ∀ (template : Template) (c : Continuation) (today : Date)
    (lines : List Text), template.HasNoTables →
    template.run (some c) today lines = template.run none today lines := by
  intro hall
  have hsame := congrArg Except.toOption (hall Template.datedNames {} ⟨2024, 12, 31, by decide⟩
    ["01.02.2024 > Miller".toList] Template.hasNoTables_datedNames)
  revert hsame
  decide +kernel

end Session

end BankStatement
