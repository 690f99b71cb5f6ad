import BankStatement.Proofs.Session.Invariant

/-!
# What stopping on errors contains

A table that stops on errors takes a line it cannot read as its end: what it holds is given out, and
the line is handed on. That covers what the line says by itself. It does not cover what the line
does to the movement that is held: an additional rule that fails there is a fault of the statement.

The main statement makes this exact: in a template whose tables all stop on errors and whose labels
read no dates, `FoldFails` is the only way in which a statement fault leaves a run
(`run_error_iff_foldFails`). The proof follows the fault down, from the run to the line
(`feedAll_error_iff`), from the line to the look (`Passage.error_iff`) and from the look to the row
(`visit_error_iff`). Each of these is an equivalence, so the condition is not only necessary: a line
that meets it does end the run.

Both assumptions are needed. A table that does not stop on errors hands its fault on, and a label
whose value is a date of the period can fail with the same kind of fault; all other values of labels
are kept as texts and cannot fail so (`assignNamed_error`). Faults that are not of the
statement, such as a template parameter that is no text, go through a table that stops on errors as
through any other, and nothing is said about them.
-/

namespace BankStatement

/-! ## Faults of a label -/

def Template.StopsOnError (template : Template) : Prop :=
  ∀ sec ∈ template.sections, sec.kind = .table → sec.stopOnError = true

/-- No label of a template is read as a date. -/
def Template.LabelsNoDate (template : Template) : Prop :=
  ∀ sec ∈ template.sections, sec.kind = .keyValue → ∀ key ∈ sec.keys,
    key.target ≠ .ofString "PeriodStart" ∧ key.target ≠ .ofString "PeriodEnd"

theorem HeaderVariable.name_of_period {name : Text} {v : HeaderVariable}
    (h : HeaderVariable.ofName? name = some v) (hv : v = .periodStart ∨ v = .periodEnd) :
    name = "PeriodStart".toList ∨ name = "PeriodEnd".toList := by
  obtain ⟨known, hmem, rfl⟩ := known_of_findSome? h
  rcases hv with rfl | rfl <;>
    simp only [List.mem_cons, Prod.mk.injEq, List.not_mem_nil, or_false, reduceCtorEq, and_false,
      and_true, false_or] at hmem
  · exact .inl (by rw [hmem])
  · exact .inr (by rw [hmem])

/-- The value of a label goes to the header, where only the dates of the period can be unreadable.
-/
theorem assignNamed_error {template : Template} {target : Value} {value : Text} {mode : Mode}
    {multiplier : Int} {header : Header} {fault : Fault}
    (hdate : target ≠ Value.ofString "PeriodStart" ∧ target ≠ Value.ofString "PeriodEnd")
    (h : Target.assignNamed template target value mode multiplier ⟨header, none⟩ = .error fault) :
    fault.isStatementFault = false := by
  unfold Target.assignNamed at h
  split at h
  next name =>
    unfold Target.assign at h
    split at h
    next v hv =>
      have hno : ¬ (v = .periodStart ∨ v = .periodEnd) := by
        intro hperiod
        rcases HeaderVariable.name_of_period hv hperiod with rfl | rfl
        · exact hdate.1 rfl
        · exact hdate.2 rfl
      cases v with
      | periodStart | periodEnd => simp at hno
      | _ => cases h
    next => cases h
  · cases h; rfl
  · cases h; rfl
  · cases h

theorem readKeys_error {template : Template} {separator : Text} {parts : List Text}
    {keys : List Key} {header header' : Header} {fault : Fault}
    (hdate : ∀ key ∈ keys,
      key.target ≠ .ofString "PeriodStart" ∧ key.target ≠ .ofString "PeriodEnd")
    (h : Section.readKeys template separator parts keys header = (header', .error fault)) :
    fault.isStatementFault = false := by
  induction keys generalizing header with
  | nil => cases h
  | cons key keys ih =>
      have hrest {header} := @ih header fun k hk => hdate k (List.mem_cons_of_mem _ hk)
      unfold Section.readKeys at h
      split at h
      · split at h
        · split at h
          · exact hrest h
          · split at h
            next hassign =>
              cases h
              exact assignNamed_error (hdate key (List.mem_cons_self ..)) hassign
            next => exact hrest h
        · cases h; rfl
      · exact hrest h

namespace Section

variable {sec : Section} {template : Template} {today : Date} {withAdditional : Bool} {line : Text}
  {header header' : Header} {fault : Fault}

theorem readKeyValue_error (hdate : ∀ key ∈ sec.keys,
      key.target ≠ .ofString "PeriodStart" ∧ key.target ≠ .ofString "PeriodEnd")
    (h : sec.readKeyValue template line header = (header', .error fault)) :
    fault.isStatementFault = false := by
  unfold readKeyValue at h
  split at h
  next hsep =>
    cases h
    unfold Value.asText at hsep
    split at hsep <;> cases hsep
    rfl
  next => exact readKeys_error hdate h

/-! ## Faults of a row -/

/-- What a line says by itself is no fault of the statement where errors end the table. -/
theorem readRecord_error (hstop : sec.stopOnError = true)
    (h : sec.readRecord template today withAdditional line header = (header', .error fault)) :
    fault.isStatementFault = false := by
  unfold readRecord at h
  split at h
  · cases h
  · split at h
    · cases h
    · split at h
      next => cases h
      next hno =>
        cases h
        simpa [hstop] using hno

/-- A line whose values cannot be taken becomes an error movement where errors end the table. -/
theorem readRecord_of_unreadable (today : Date) {target : Target} (hstop : sec.stopOnError = true)
    (hi : sec.ignores line = false) (hf : fault.isStatementFault = true)
    (htake : sec.takeValues template withAdditional line ⟨header, some {}⟩
      = (target, .error fault)) :
    sec.readRecord template today withAdditional line header
      = (target.header, .ok (some Movement.unreadable)) := by
  simp [readRecord, hi, htake, hf, hstop]

end Section

namespace Session

variable {policy : Option Continuation} {c : Continuation} {sec : Section} {line : Text}
  {s t : Session} {fault : Fault}

/-- A line of a table continues what is held, and one of the additional rules that it meets there
fails. -/
def FoldFails (c : Continuation) (sec : Section) (line : Text) (s : Session) (fault : Fault) :
    Prop :=
  s.stage = .table ∧ s.isRow sec line = true ∧ ∃ h header m? t, s.held = some h
    ∧ s.parse (some c) sec line = (header, .ok m?) ∧ c.Continues m? ∧ sec.ignores line = false
    ∧ foldRules line (sec.rulesOf .additional) { s with header } = (t, .error fault)

theorem foldLine_of_continues {h : Movement} {header : Header} {m? : Option Movement}
    (hh : s.held = some h) (hp : s.parse (some c) sec line = (header, .ok m?))
    (hm : c.Continues m?) (hi : sec.ignores line = false) :
    s.foldLine c sec line = foldRules line (sec.rulesOf .additional) { s with header } := by
  rw [parse, Option.isNone_some] at hp
  unfold foldLine
  rw [hp]
  simp only [hh]
  cases m? with
  | none => simp [hi]
  | some m =>
      obtain ⟨herror, hc⟩ := hm m rfl
      simp [herror, hc, hi]

/-- The values of a row that a tidy session reads are no fault of the statement. -/
theorem parse_error {policy' : Option Continuation} {header : Header} (hs : Tidy policy s)
    (hcur : s.current = some sec) (hstop : s.template.StopsOnError) (hst : s.stage = .table)
    (hp : s.parse policy' sec line = (header, .error fault)) : fault.isStatementFault = false := by
  have hfits := hs.stage_fits sec hcur
  rw [hst] at hfits
  exact Section.readRecord_error (hstop sec (hs.current_mem sec hcur) hfits) hp

theorem foldLine_error (hs : Tidy (some c) s) (hcur : s.current = some sec)
    (hstop : s.template.StopsOnError) (hst : s.stage = .table) (hrow : s.isRow sec line = true)
    (hf : fault.isStatementFault = true) (h : s.foldLine c sec line = (t, .error fault)) :
    FoldFails c sec line s fault := by
  generalize hr : Except.error fault = r at h
  cases foldLine_folded h with
  | fault hp =>
      cases hr
      rw [parse_error hs hcur hstop hst hp] at hf
      cases hf
  | continued hh hp hm hi hfold =>
      subst hr
      exact ⟨hst, hrow, _, _, _, _, hh, hp, hm, hi, hfold⟩
  | _ => cases hr

theorem row_error (hs : Tidy policy s) (hcur : s.current = some sec)
    (hstop : s.template.StopsOnError) (hrow : s.isRow sec line = true)
    (hf : fault.isStatementFault = true) (h : s.row policy sec line = (t, .error fault)) :
    ∃ c, policy = some c ∧ FoldFails c sec line s fault := by
  unfold row at h
  split at h
  next hst =>
    unfold tableLine at h
    split at h
    next c => exact ⟨c, rfl, foldLine_error hs hcur hstop hst hrow hf h⟩
    next =>
      have hresult : (s.parse none sec line).2 = .error fault := congrArg Prod.snd h
      rw [parse_error hs hcur hstop hst (Prod.ext rfl hresult)] at hf
      cases hf
  next =>
    unfold dynamicLine at h
    split at h
    · cases h
    · split at h
      next hno =>
        split at h
        · cases h
        next => cases h; contradiction
      next => cases h
      next => cases h

/-- Where tables stop on errors and labels read no dates, a look fails for the statement only by
folding. -/
theorem visit_error_iff (hs : Tidy policy s) (hcur : s.current = some sec)
    (hstop : s.template.StopsOnError) (hdate : s.template.LabelsNoDate)
    (hf : fault.isStatementFault = true) :
    (∃ t, s.visit policy sec line = (t, .error fault))
      ↔ ∃ c, policy = some c ∧ FoldFails c sec line s fault := by
  constructor
  · rintro ⟨t, hvisit⟩
    generalize hr : Except.error fault = r at hvisit
    cases visit_looked hvisit with
    | labelFault hst hread =>
        cases hr
        have hkind : sec.kind = .keyValue := by
          have hfits := hs.stage_fits sec hcur
          rwa [hst] at hfits
        have hno := Section.readKeyValue_error (hdate sec (hs.current_mem sec hcur) hkind) hread
        rw [hf] at hno
        cases hno
    | rowFault hrow hread =>
        cases hr
        exact row_error hs hcur hstop hrow hf hread
    | _ => cases hr
  · rintro ⟨c, rfl, hst, hrow, h, header, m?, t, hh, hp, hm, hi, hfold⟩
    have hline : s.tableLine (some c) sec line = (t, .error fault) :=
      (foldLine_of_continues hh hp hm hi).trans hfold
    simp only [isRow, hst, Bool.not_eq_true', Bool.or_eq_false_iff] at hrow
    exact ⟨t, by simp [visit, hst, hrow.1, hrow.2, hline]⟩

/-! ## Faults of a line -/

/-- A line fails exactly if one of the sections that look at it fails, and with the same fault. The
way ends there, so there is at most one such section. -/
theorem Passage.error_iff {looks : List (Section × Session)} {r : Except Fault (List Movement)}
    (hp : Passage policy line s looks t r) :
    r = .error fault
      ↔ ∃ look ∈ looks, ∃ u, look.2.visit policy look.1 line = (u, .error fault) := by
  induction hp with
  | enter _ _ _ ih => exact ih
  | exhaust | idle => simp
  | fault _ _ hv => simp [hv]
  | usedUp _ _ hv => simp [hv]
  | @handedOn _ _ _ _ own _ r _ _ hv _ ih =>
      have hmap : r.map (own ++ ·) = .error fault ↔ r = .error fault := by
        cases r <;> simp [Except.map]
      rw [hmap, ih]
      simp [hv]

/-! ## Faults of a run -/

/-- Reading some lines fails where one of them does, all lines before it having been read. -/
theorem feedAll_error_iff {lines : List Text} :
    s.feedAll policy lines = .error fault ↔ ∃ before line after u given t,
      lines = before ++ line :: after ∧ s.feedAll policy before = .ok (u, given)
        ∧ u.feed policy line = (t, .error fault) := by
  constructor
  · intro h
    induction lines generalizing s with
    | nil => cases h
    | cons line lines ih =>
        cases hfeed : s.feed policy line with
        | mk u r =>
            cases r with
            | error fault' =>
                rw [feedAll, hfeed] at h
                cases h
                exact ⟨[], line, lines, s, [], u, rfl, rfl, hfeed⟩
            | ok own =>
                rw [feedAll_cons lines hfeed] at h
                cases hrest : u.feedAll policy lines with
                | ok => rw [hrest] at h; cases h
                | error fault' =>
                    rw [hrest] at h
                    cases h
                    obtain ⟨before, line', after, v, given, w, rfl, hbefore, hline⟩ := ih hrest
                    refine ⟨line :: before, line', after, v, own ++ given, w, rfl, ?_, hline⟩
                    rw [feedAll_cons before hfeed, hbefore]
                    rfl
  · rintro ⟨before, line, after, u, given, t, rfl, hbefore, hline⟩
    rw [feedAll_append _ hbefore, feedAll, hline]
    rfl

theorem run_error_iff_feedAll {template : Template} {today : Date} {lines : List Text} :
    template.run policy today lines = .error fault
      ↔ (start template today).feedAll policy lines = .error fault := by
  unfold Template.run
  cases (start template today).feedAll policy lines <;> simp

theorem feed_error_iff (hs : Tidy policy s) (hstop : s.template.StopsOnError)
    (hdate : s.template.LabelsNoDate) (hf : fault.isStatementFault = true) :
    (∃ t, s.feed policy line = (t, .error fault)) ↔ ∃ c, policy = some c
      ∧ ∃ look ∈ looks policy (trimLineEnd line) { s with lineNo := s.lineNo + 1 },
        FoldFails c look.1 (trimLineEnd line) look.2 fault := by
  have hp := feed_passage policy line s
  have hfault : (∃ t, s.feed policy line = (t, .error fault))
      ↔ (s.feed policy line).2 = .error fault :=
    ⟨fun ⟨t, h⟩ => by rw [h], fun h => ⟨_, Prod.ext rfl h⟩⟩
  have hvisit : ∀ look ∈ looks policy (trimLineEnd line) { s with lineNo := s.lineNo + 1 },
      (∃ u, look.2.visit policy look.1 (trimLineEnd line) = (u, .error fault))
        ↔ ∃ c, policy = some c ∧ FoldFails c look.1 (trimLineEnd line) look.2 fault := by
    intro look hlook
    obtain ⟨htidy, hcur, htemplate, -⟩ := hp.tidy_look (hs.lineNo _) look hlook
    exact visit_error_iff htidy hcur (htemplate ▸ hstop) (htemplate ▸ hdate) hf
  rw [hfault, hp.error_iff]
  constructor
  · rintro ⟨look, hmem, hu⟩
    obtain ⟨c, hc, hfold⟩ := (hvisit look hmem).mp hu
    exact ⟨c, hc, look, hmem, hfold⟩
  · rintro ⟨c, hc, look, hmem, hfold⟩
    exact ⟨look, hmem, (hvisit look hmem).mpr ⟨c, hc, hfold⟩⟩

/-- A line that cannot be read ends a table that stops on errors: what is held is given out, and the
line is handed on. -/
theorem visit_of_unreadable {target : Target} (hst : s.stage = .table)
    (hrow : s.isRow sec line = true) (hstop : sec.stopOnError = true)
    (hi : sec.ignores line = false) (hf : fault.isStatementFault = true)
    (htake : sec.takeValues s.template policy.isNone line ⟨s.header, some {}⟩
      = (target, .error fault)) :
    s.visit policy sec line = (({ s with header := target.header }.endTable policy).1,
      .ok ⟨({ s with header := target.header }.endTable policy).2, false⟩) := by
  have hp := Section.readRecord_of_unreadable s.today hstop hi hf htake
  have hline : s.tableLine policy sec line
      = ({ s with header := target.header }, .ok (some Movement.unreadable)) := by
    cases policy with
    | none =>
        rw [Option.isNone_none] at hp
        simp only [tableLine, hp]
    | some c =>
        rw [Option.isNone_some] at hp
        simp only [tableLine, foldLine, hp]
        cases hh : s.held <;> rfl
  simp only [isRow, hst, Bool.not_eq_true', Bool.or_eq_false_iff] at hrow
  simp [visit, hst, hrow.1, hrow.2, hline, endTableAt, Movement.unreadable]

/-- Where all tables stop on errors and labels read no dates, a line that cannot be read ends its
table, and a run fails for the statement exactly when an additional rule fails on the held movement
that a line continues. The line is named together with the session that met it, so that what the
rule was tried on is part of the statement. -/
theorem run_error_iff_foldFails (template : Template) (policy : Option Continuation) (today : Date)
    (lines : List Text) (hstop : template.StopsOnError) (hdate : template.LabelsNoDate) :
    (∀ fault, fault.isStatementFault = true →
      (template.run policy today lines = .error fault ↔ ∃ c before line after s given,
        policy = some c ∧ lines = before ++ line :: after
          ∧ (start template today).feedAll policy before = .ok (s, given)
          ∧ ∃ look ∈ looks policy (trimLineEnd line) { s with lineNo := s.lineNo + 1 },
            FoldFails c look.1 (trimLineEnd line) look.2 fault))
      ∧ ∀ (s : Session) sec line target fault, sec ∈ template.sections → sec.kind = .table →
        s.stage = .table → s.isRow sec line = true → sec.ignores line = false →
        fault.isStatementFault = true →
        sec.takeValues s.template policy.isNone line ⟨s.header, some {}⟩
          = (target, .error fault) →
        s.visit policy sec line = (({ s with header := target.header }.endTable policy).1,
          .ok ⟨({ s with header := target.header }.endTable policy).2, false⟩) := by
  refine ⟨fun fault hf => ?_, fun s sec line target fault hsec hkind hst hrow hi hf htake =>
    visit_of_unreadable hst hrow (hstop sec hsec hkind) hi hf htake⟩
  have hline : ∀ {before line s given},
      (start template today).feedAll policy before = .ok (s, given) →
      ((∃ t, s.feed policy line = (t, .error fault)) ↔ ∃ c, policy = some c
        ∧ ∃ look ∈ looks policy (trimLineEnd line) { s with lineNo := s.lineNo + 1 },
          FoldFails c look.1 (trimLineEnd line) look.2 fault) := by
    intro before line s given hbefore
    have htemplate : s.template = template := feedAll_template hbefore
    exact feed_error_iff (tidy_feedAll (tidy_start policy template today) hbefore)
      (htemplate ▸ hstop) (htemplate ▸ hdate) hf
  rw [run_error_iff_feedAll, feedAll_error_iff]
  constructor
  · rintro ⟨before, line, after, s, given, t, hlines, hbefore, ht⟩
    obtain ⟨c, hc, hfold⟩ := (hline hbefore).mp ⟨t, ht⟩
    exact ⟨c, before, line, after, s, given, hc, hlines, hbefore, hfold⟩
  · rintro ⟨c, before, line, after, s, given, hc, hlines, hbefore, hfold⟩
    obtain ⟨t, ht⟩ := (hline hbefore).mpr ⟨c, hc, hfold⟩
    exact ⟨before, line, after, s, given, t, hlines, hbefore, ht⟩

end Session

/-- A layout that stops on errors, in which a line with an amount continues a movement. -/
def Template.priced : Template := Template.dated true "^Amt (?P<Amount>\\S+)"

theorem Template.stopsOnError_priced : Template.priced.StopsOnError := by
  simp [Template.StopsOnError, Template.priced, Template.dated]

theorem Template.labelsNoDate_priced : Template.priced.LabelsNoDate := by
  simp [Template.LabelsNoDate, Template.priced, Template.dated]

/-- Whether reading some lines fails for the statement. -/
def Template.aborts (template : Template) (policy : Option Continuation) (today : Date)
    (lines : List Text) : Bool :=
  match template.run policy today lines with
  | .error fault => fault.isStatementFault
  | .ok _ => false

theorem Template.error_of_aborts {template : Template} {policy : Option Continuation} {today : Date}
    {lines : List Text} (h : template.aborts policy today lines = true) :
    ∃ fault, fault.isStatementFault = true ∧ template.run policy today lines = .error fault := by
  unfold Template.aborts at h
  split at h
  next fault hfault => exact ⟨fault, h, hfault⟩
  next => cases h

/-- The amount of the second line is none, and the first line's movement is held. -/
theorem Template.aborts_priced : Template.priced.aborts (some {}) ⟨2024, 12, 31, by decide⟩
    ["01.02.2024 x".toList, "Amt abc".toList] = true := by
  decide +kernel

namespace Session

/-- Stopping on errors does not contain every fault of a line: the second line of a statement of two
continues the held movement with an amount that is none. -/
theorem not_contained : ¬ ∀ (template : Template) (policy : Option Continuation) (today : Date)
    (lines : List Text) (fault : Fault), template.StopsOnError → template.LabelsNoDate →
    template.run policy today lines = .error fault → fault.isStatementFault = false := by
  intro hall
  obtain ⟨fault, hf, hrun⟩ := Template.error_of_aborts Template.aborts_priced
  have hno := hall _ _ _ _ fault Template.stopsOnError_priced Template.labelsNoDate_priced hrun
  rw [hf] at hno
  cases hno

/-- The line that fails is one that would continue a movement. -/
theorem run_error_iff_foldFails_priced : Template.priced.StopsOnError ∧ Template.priced.LabelsNoDate
    ∧ ∃ fault before line after s given, fault.isStatementFault = true
      ∧ ["01.02.2024 x".toList, "Amt abc".toList] = before ++ line :: after
      ∧ (start Template.priced ⟨2024, 12, 31, by decide⟩).feedAll (some {}) before = .ok (s, given)
      ∧ ∃ look ∈ looks (some {}) (trimLineEnd line) { s with lineNo := s.lineNo + 1 },
        FoldFails {} look.1 (trimLineEnd line) look.2 fault := by
  obtain ⟨hiff, -⟩ := run_error_iff_foldFails Template.priced (some {}) ⟨2024, 12, 31, by decide⟩
    ["01.02.2024 x".toList, "Amt abc".toList] Template.stopsOnError_priced
    Template.labelsNoDate_priced
  obtain ⟨fault, hf, hrun⟩ := Template.error_of_aborts Template.aborts_priced
  obtain ⟨c, before, line, after, s, given, hc, hlines, hbefore, hfold⟩ := (hiff fault hf).mp hrun
  cases hc
  exact ⟨Template.stopsOnError_priced, Template.labelsNoDate_priced, fault, before, line, after, s,
    given, hf, hlines, hbefore, hfold⟩

end Session

end BankStatement
