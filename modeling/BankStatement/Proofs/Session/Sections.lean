import BankStatement.Proofs.Session.Invariant
import BankStatement.Proofs.Session.Reframing
import BankStatement.Proofs.Session.SectionReading

/-!
# The session reads section by section

Feeding all lines to a session gives what `Template.readSections` says: the same header and
movements, or the same fault (`run_eq_readSections`).

The two differ in what drives them. A session is driven by lines, and one line may take it through
several sections; the reading is driven by sections, and each takes as many lines as it wants.
`conclude` is what a session makes of the lines to come, `concludeFrom` the same when the first of
them is being read, and both are followed through one section at a time: the induction over the
lines stays inside a section, the induction over the sections (`restFollows`) joins them. Both
functions are needed because a section can be entered in the middle of a line, with the line that
the section before it has handed on.

`Follows` is stated of a kind of session and not of a single one. Inside a section the kind is
`Within`, which fixes the stage, so that every step lemma opens one branch of `visit` only; between
two sections it is `Before`. `follows_of_step` makes the induction over the lines once for all
stages.

A table is read by the whole session here and by `Section.desk` there. Rows do not look at where the
session stands (`unplaced`), and between two sections nothing is held (`Tidy`), so they agree. This
is where the invariant is needed: a movement held over from one section to the next would be given
out by the session and be unknown to the reading.
-/

namespace BankStatement.Session

variable {policy : Option Continuation} {c : Continuation} {sec : Section} {line : Text}
  {s t : Session}

/-! ## Rows do not look at where the session stands -/

/-- A session without its place in the template and in the statement. -/
def unplaced (s : Session) : Session :=
  { s with entered := 0, stage := .between, exhausted := false, lineNo := 0 }

theorem tableLine_unplaced (policy : Option Continuation) (sec : Section) (line : Text)
    (s : Session) :
    s.unplaced.tableLine policy sec line
      = ((s.tableLine policy sec line).1.unplaced, (s.tableLine policy sec line).2) := by
  rw [← tableLine_stays policy sec line s]
  exact tableLine_amid policy sec line s s.unplaced

theorem dynamicLine_unplaced (policy : Option Continuation) (sec : Section) (line : Text)
    (s : Session) :
    s.unplaced.dynamicLine policy sec line
      = ((s.dynamicLine policy sec line).1.unplaced, (s.dynamicLine policy sec line).2) := by
  rw [← dynamicLine_stays policy sec line s]
  exact dynamicLine_amid policy sec line s s.unplaced

theorem emit?_unplaced (s : Session) (m? : Option Movement) :
    s.unplaced.emit? m? = ((s.emit? m?).1.unplaced, (s.emit? m?).2) := by
  cases m? with
  | none => rfl
  | some m =>
      have hcur : s.unplaced.current = s.current := rfl
      have hseen : s.unplaced.seen = s.seen := rfl
      simp only [emit?, emit, hcur, hseen]
      split
      · split <;> rfl
      · rfl

/-! ## What a session makes of the lines to come -/

def conclude (policy : Option Continuation) (lines : List Text) (s : Session) :
    Except Fault Statement :=
  match s.feedAll policy lines with
  | .error fault => .error fault
  | .ok (s, movements) =>
    let (s, last) := s.finish policy
    .ok ⟨s.header, movements ++ last⟩

/-- The statement that a session reads from a line and the lines to come. -/
def concludeFrom (policy : Option Continuation) (line : Text) (lines : List Text) (s : Session) :
    Except Fault Statement :=
  match s.readLine policy line with
  | (_, .error fault) => .error fault
  | (s, .ok given) => (s.conclude policy lines).map (·.after given)

theorem conclude_nil (policy : Option Continuation) (s : Session) :
    s.conclude policy [] = .ok ⟨(s.finish policy).1.header, (s.finish policy).2⟩ := rfl

theorem conclude_cons (policy : Option Continuation) (line : Text) (lines : List Text)
    (s : Session) :
    s.conclude policy (line :: lines)
      = concludeFrom policy (trimLineEnd line) lines { s with lineNo := s.lineNo + 1 } := by
  unfold concludeFrom
  rw [← feed]
  cases hfeed : s.feed policy line with
  | mk t r =>
      cases r with
      | error => simp [conclude, feedAll, hfeed]
      | ok given =>
          show s.conclude policy (line :: lines) = (t.conclude policy lines).map (·.after given)
          rw [conclude, conclude, feedAll_cons lines hfeed]
          cases t.feedAll policy lines with
          | error => rfl
          | ok rest => simp [Except.map, Statement.after]

theorem after_after (given own : List Movement) (result : Except Fault Statement) :
    (result.map (·.after own)).map (·.after given) = result.map (·.after (given ++ own)) := by
  cases result <;> simp [Except.map, Statement.after]

section

variable {lines : List Text} {given : List Movement} {fault : Fault} {rest : List Section}

theorem concludeFrom_fault (hst : s.stage ≠ .between) (hcur : s.current = some sec)
    (hv : s.visit policy sec line = (t, .error fault)) :
    s.concludeFrom policy line lines = .error fault := by
  rw [concludeFrom, (readLine_of_section policy line hst hcur).1, hv]

theorem concludeFrom_usedUp (hst : s.stage ≠ .between) (hcur : s.current = some sec)
    (hv : s.visit policy sec line = (t, .ok ⟨given, true⟩)) :
    s.concludeFrom policy line lines = (t.conclude policy lines).map (·.after given) := by
  rw [concludeFrom, (readLine_of_section policy line hst hcur).1, hv]
  rfl

theorem concludeFrom_handedOn (hst : s.stage ≠ .between) (hcur : s.current = some sec)
    (hv : s.visit policy sec line = (t, .ok ⟨given, false⟩)) :
    s.concludeFrom policy line lines = (t.concludeFrom policy line lines).map (·.after given) := by
  rw [concludeFrom, concludeFrom, (readLine_of_section policy line hst hcur).1, hv,
    (readLine_of_between policy line (stage_of_handedOn hv)).1]
  simp only [Bool.false_eq_true, if_false]
  rw [passOn_given]
  cases passOn policy line t.upcoming [] t with
  | mk u r =>
      cases r with
      | error => rfl
      | ok own => exact (after_after given own _).symm

theorem concludeFrom_enter (hst : s.stage = .between) (hup : s.upcoming = sec :: rest) :
    s.concludeFrom policy line lines = (s.enter sec).concludeFrom policy line lines := by
  rw [concludeFrom, concludeFrom, (readLine_of_between policy line hst).1,
    (readLine_of_section policy line (stage_enter s sec) rfl).1, hup, passOn]
  cases hv : (s.enter sec).visit policy sec line with
  | mk t r =>
      cases r with
      | error => rfl
      | ok v =>
          have hup' : t.upcoming = rest :=
            (upcoming_of_standing (standing_visit hv)).trans (upcoming_enter hup)
          simp only [List.nil_append, hup']

end

/-! ## Following the lines through one stage -/

/-- The session has read the template up to some sections that are still to come. -/
structure Before (policy : Option Continuation) (template : Template) (today : Date)
    (secs : List Section) (s : Session) : Prop where
  tidy : Tidy policy s
  template_eq : s.template = template
  today_eq : s.today = today
  upcoming_eq : s.upcoming = secs

/-- The session reads a section in some stage, with some sections still to come. -/
structure Within (policy : Option Continuation) (template : Template) (today : Date)
    (sec : Section) (stage : Stage) (rest : List Section) (s : Session) : Prop where
  before : Before policy template today rest s
  current_eq : s.current = some sec
  stage_eq : s.stage = stage

/-- From sessions of some kind the lines to come give what a reading says. -/
def Follows (policy : Option Continuation) (Q : Session → Prop)
    (reading : List Text → Session → Except Fault Statement) : Prop :=
  ∀ s, Q s → ∀ lines, s.conclude policy lines = reading (lines.map trimLineEnd) s
    ∧ ∀ line, s.concludeFrom policy line lines = reading (line :: lines.map trimLineEnd) s

/-- The induction over the lines: it is enough to follow a session at its end and, if the lines
behind it are known to be followed, through one line. What a reading says may not depend on the
number of the line, which changes with every line and is no part of a statement. -/
theorem follows_of_step {Q : Session → Prop}
    {reading : List Text → Session → Except Fault Statement}
    (hcount : ∀ s n, Q s →
      Q { s with lineNo := n } ∧ ∀ lines, reading lines { s with lineNo := n } = reading lines s)
    (hnil : ∀ s, Q s → s.conclude policy [] = reading [] s)
    (hstep : ∀ s, Q s → ∀ line lines,
      (∀ t, Q t → t.conclude policy lines = reading (lines.map trimLineEnd) t) →
      s.concludeFrom policy line lines = reading (line :: lines.map trimLineEnd) s) :
    Follows policy Q reading := by
  have hall : ∀ lines s, Q s → s.conclude policy lines = reading (lines.map trimLineEnd) s := by
    intro lines
    induction lines with
    | nil => exact hnil
    | cons line lines ih =>
        intro s hs
        obtain ⟨hs', hsame⟩ := hcount s (s.lineNo + 1) hs
        rw [conclude_cons, hstep _ hs' _ _ ih, hsame]
        rfl
  exact fun s hs lines => ⟨hall lines s hs, fun line => hstep s hs line lines (hall lines)⟩

section

variable {template : Template} {today : Date} {stage : Stage} {rest : List Section}

theorem Before.lineNo (hs : Before policy template today rest s) (n : Nat) :
    Before policy template today rest { s with lineNo := n } :=
  ⟨hs.tidy.lineNo n, hs.template_eq, hs.today_eq, hs.upcoming_eq⟩

theorem Within.lineNo (hs : Within policy template today sec stage rest s) (n : Nat) :
    Within policy template today sec stage rest { s with lineNo := n } :=
  ⟨hs.before.lineNo n, hs.current_eq, hs.stage_eq⟩

theorem Within.header (hs : Within policy template today sec stage rest s) (header : Header) :
    Within policy template today sec stage rest { s with header } :=
  ⟨⟨hs.before.tidy.header header, hs.before.template_eq, hs.before.today_eq,
    hs.before.upcoming_eq⟩, hs.current_eq, hs.stage_eq⟩

/-- What a look at a line changes does not take the session any further. -/
theorem Before.of_standing (hs : Before policy template today rest s) (ht : Tidy policy t)
    (hstand : t.standing = s.standing) : Before policy template today rest t := by
  obtain ⟨htemplate, htoday, -, -⟩ := fields_of_standing hstand
  exact ⟨ht, htemplate.trans hs.template_eq, htoday.trans hs.today_eq,
    (upcoming_of_standing hstand).trans hs.upcoming_eq⟩

theorem Within.visit {r : Except Fault Visit} (hs : Within policy template today sec stage rest s)
    (hv : s.visit policy sec line = (t, r)) : Before policy template today rest t :=
  hs.before.of_standing (tidy_visit hs.before.tidy hs.current_eq hv) (standing_visit hv)

/-- What comes of a part and the sections after it. -/
def goOn (policy : Option Continuation) (template : Template) (today : Date) (rest : List Section)
    (result : Except Fault Part) : Except Fault Statement :=
  match result with
  | .error fault => .error fault
  | .ok part =>
    (template.readSections policy today rest part.rest part.header).map (·.after part.movements)

theorem goOn_after (given : List Movement) (result : Except Fault Part) :
    goOn policy template today rest (result.map (·.after given))
      = (goOn policy template today rest result).map (·.after given) := by
  cases result with
  | error => rfl
  | ok part => exact (after_after given part.movements _).symm

theorem after_nil (result : Except Fault Statement) : result.map (·.after []) = result := by
  cases result <;> rfl

/-- The sessions that have left a section follow the sections to come. -/
def RestFollows (policy : Option Continuation) (template : Template) (today : Date)
    (rest : List Section) : Prop :=
  Follows policy (fun s => Before policy template today rest s ∧ s.stage = .between)
    fun lines s => template.readSections policy today rest lines s.header

theorem follows_ignoring (hrest : RestFollows policy template today rest) :
    Follows policy (Within policy template today sec .ignoring rest)
      fun lines s => template.readSections policy today rest (sec.passOver lines) s.header := by
  refine follows_of_step (fun s n hs => ⟨hs.lineNo n, fun _ => rfl⟩) (fun s hs => ?_)
    fun s hs line lines hlines => ?_
  · rw [conclude_nil, finish, hs.stage_eq, Section.passOver, readSections_nil]
    rfl
  have hst : s.stage ≠ .between := by simp [hs.stage_eq]
  rw [Section.passOver]
  split
  next hb =>
    have hv : s.visit policy sec line = (s.leave, .ok ⟨[], true⟩) := by
      simp [Session.visit, hs.stage_eq, hb]
    rw [concludeFrom_usedUp hst hs.current_eq hv, after_nil]
    exact (hrest _ ⟨hs.visit hv, rfl⟩ lines).1
  next hb =>
    split
    next he =>
      have hv : s.visit policy sec line = (s.leave, .ok ⟨[], false⟩) := by
        simp [Session.visit, hs.stage_eq, hb, he]
      rw [concludeFrom_handedOn hst hs.current_eq hv, after_nil]
      exact (hrest _ ⟨hs.visit hv, rfl⟩ lines).2 line
    next he =>
      have hv : s.visit policy sec line = (s, .ok ⟨[], true⟩) := by
        simp [Session.visit, hs.stage_eq, hb, he]
      rw [concludeFrom_usedUp hst hs.current_eq hv, after_nil]
      exact hlines s hs

theorem follows_keyValue (hrest : RestFollows policy template today rest) :
    Follows policy (Within policy template today sec .keyValue rest)
      fun lines s =>
        goOn policy template today rest (sec.readLabels template lines s.header) := by
  refine follows_of_step (fun s n hs => ⟨hs.lineNo n, fun _ => rfl⟩) (fun s hs => ?_)
    fun s hs line lines hlines => ?_
  · rw [conclude_nil, finish, hs.stage_eq, Section.readLabels, goOn, readSections_nil]
    rfl
  have hst : s.stage ≠ .between := by simp [hs.stage_eq]
  rw [Section.readLabels]
  split
  next hb =>
    have hv : s.visit policy sec line = (s.leave, .ok ⟨[], true⟩) := by
      simp only [Session.visit, hs.stage_eq, hb, if_true]
    rw [concludeFrom_usedUp hst hs.current_eq hv, goOn]
    exact congrArg (·.map (·.after [])) (hrest _ ⟨hs.visit hv, rfl⟩ lines).1
  next hb =>
    cases hr : sec.readKeyValue template line s.header with
    | mk header result =>
        have hr' := hr
        rw [← hs.before.template_eq] at hr'
        cases result with
        | error fault =>
            have hv : s.visit policy sec line = ({ s with header }, .error fault) := by
              simp only [Session.visit, hs.stage_eq, if_neg hb, hr']
            exact concludeFrom_fault hst hs.current_eq hv
        | ok =>
            have hv : s.visit policy sec line = ({ s with header }, .ok ⟨[], true⟩) := by
              simp only [Session.visit, hs.stage_eq, if_neg hb, hr']
            rw [concludeFrom_usedUp hst hs.current_eq hv, after_nil]
            exact hlines _ ⟨hs.visit hv, hs.current_eq, hs.stage_eq⟩

/-! ## Following the rows of a table -/

/-- A row leaves the session where it is. -/
theorem Within.row {r : Except Fault (Option Movement)}
    (hs : Within policy template today sec stage rest s) (hrow : s.isRow sec line = true)
    (h : s.row policy sec line = (t, r)) : Within policy template today sec stage rest t := by
  have hstand := standing_row h
  have hst : t.stage = s.stage := by
    cases row_done hs.before.tidy hs.current_eq hrow h <;> rfl
  refine ⟨?_, (fields_of_standing hstand).2.2.1.trans hs.current_eq, hst.trans hs.stage_eq⟩
  exact hs.before.of_standing (tidy_row hs.before.tidy hs.current_eq hrow h) hstand

theorem Within.emit? {m? : Option Movement} {given : List Movement}
    (hs : Within policy template today sec stage rest s) (h : s.emit? m? = (t, given)) :
    Within policy template today sec stage rest t := by
  obtain ⟨⟨seen, rfl⟩, -, -⟩ := emit?_eq h
  exact ⟨⟨hs.before.tidy.seen seen, hs.before.template_eq, hs.before.today_eq,
    hs.before.upcoming_eq⟩, hs.current_eq, hs.stage_eq⟩

theorem close_unplaced (hs : Tidy policy s) (left : List Text) :
    s.unplaced.close left = ⟨(s.endTable policy).1.header, (s.endTable policy).2, left⟩ := by
  cases he : s.endTable policy with
  | mk t given =>
      obtain ⟨⟨seen, rfl⟩, -, -⟩ := endTable_eq hs he
      have hgiven := congrArg Prod.snd he
      simp only [endTable, release_of_tidy hs] at hgiven
      subst hgiven
      rw [close, emit?_unplaced]
      cases hh : s.held with
      | none => simp [unplaced, Session.emit?, hh]
      | some m =>
          simp only [unplaced, Session.emit?, Session.emit, hh]
          split
          · split <;> rfl
          · rfl

/-- The end of a table gives out what its reading gives out there. -/
theorem goOn_close (hs : Within policy template today sec stage rest s) (left : List Text) :
    goOn policy template today rest (.ok (s.unplaced.close left))
      = (template.readSections policy today rest left (s.endTable policy).1.header).map
        (·.after (s.endTable policy).2) := by
  rw [goOn, close_unplaced hs.before.tidy]

theorem conclude_endTable (hs : Within policy template today sec stage rest s)
    (hst : stage = .table ∨ stage = .dynamicTable) :
    s.conclude policy [] = goOn policy template today rest (.ok (s.unplaced.close [])) := by
  have hfinish : s.finish policy = s.endTable policy := by
    rcases hst with rfl | rfl <;> rw [finish, hs.stage_eq]
  rw [conclude_nil, hfinish, goOn_close hs, readSections_nil]
  simp only [Except.map, Statement.after, List.append_nil]

/-- A line at which a table stops gives what the table holds, and then what the sections to come
make of the lines left to them. -/
theorem concludeFrom_endTable {u : Session} {usedUp : Bool} {lines : List Text}
    (hrest : RestFollows policy template today rest)
    (hs : Within policy template today sec stage rest s) (hst : s.stage ≠ .between)
    (hu : Within policy template today sec stage rest u)
    (hv : s.visit policy sec line
      = ((u.endTable policy).1, .ok ⟨(u.endTable policy).2, usedUp⟩)) :
    s.concludeFrom policy line lines = goOn policy template today rest (.ok (u.unplaced.close
      (bif usedUp then lines.map trimLineEnd else line :: lines.map trimLineEnd))) := by
  obtain ⟨hlines, hline⟩ := hrest (u.endTable policy).1 ⟨hs.visit hv, rfl⟩ lines
  rw [goOn_close hu]
  cases usedUp with
  | true => rw [concludeFrom_usedUp hst hs.current_eq hv, hlines, cond_true]
  | false => rw [concludeFrom_handedOn hst hs.current_eq hv, hline, cond_false]

theorem follows_rows (hrest : RestFollows policy template today rest) :
    Follows policy (Within policy template today sec .table rest)
      fun lines s => goOn policy template today rest (s.unplaced.rows policy sec lines) := by
  refine follows_of_step (fun s n hs => ⟨hs.lineNo n, fun _ => rfl⟩)
    (fun s hs => conclude_endTable hs (.inl rfl)) fun s hs line lines hlines => ?_
  have hst : s.stage ≠ .between := by simp [hs.stage_eq]
  rw [rows]
  split
  next hb =>
    have hv : s.visit policy sec line
        = ((s.endTable policy).1, .ok ⟨(s.endTable policy).2, true⟩) := by
      simp only [Session.visit, hs.stage_eq, hb, if_true, endTableAt]
    exact concludeFrom_endTable hrest hs hst hs hv
  next hb =>
  split
  next he =>
    have hv : s.visit policy sec line
        = ((s.endTable policy).1, .ok ⟨(s.endTable policy).2, false⟩) := by
      simp only [Session.visit, hs.stage_eq, if_neg hb, he, if_true, endTableAt]
    exact concludeFrom_endTable hrest hs hst hs hv
  next he =>
  have hrow : s.isRow sec line = true := by
    simp [isRow, hs.stage_eq, hb, he]
  have hline : s.row policy sec line = s.tableLine policy sec line := by
    simp only [Session.row, hs.stage_eq]
  rw [tableLine_unplaced]
  cases hr : s.tableLine policy sec line with
  | mk u result =>
      cases result with
      | error fault =>
          have hv : s.visit policy sec line = (u, .error fault) := by
            simp only [Session.visit, hs.stage_eq, if_neg hb, if_neg he, hr]
          exact concludeFrom_fault hst hs.current_eq hv
      | ok m? =>
          have hu := hs.row hrow (hline.trans hr)
          simp only
          split
          next hm =>
            obtain ⟨m, rfl, herror⟩ : ∃ m, m? = some m ∧ m.isError = true := by
              cases m? with
              | none => cases hm
              | some m => exact ⟨m, rfl, hm⟩
            have hv : s.visit policy sec line
                = ((u.endTable policy).1, .ok ⟨(u.endTable policy).2, false⟩) := by
              simp only [Session.visit, hs.stage_eq, if_neg hb, if_neg he, hr, herror, if_true,
                endTableAt]
            exact concludeFrom_endTable hrest hs hst hu hv
          next hm =>
            have hv : s.visit policy sec line
                = ((u.emit? m?).1, .ok ⟨(u.emit? m?).2, true⟩) := by
              simp only [Session.visit, hs.stage_eq, if_neg hb, if_neg he, hr]
              cases m? with
              | none => rfl
              | some m =>
                  rw [Option.any_some] at hm
                  simp only [if_neg hm]
                  rfl
            have hu' : Within policy template today sec .table rest (u.emit? m?).1 := hu.emit? rfl
            rw [concludeFrom_usedUp hst hs.current_eq hv, emit?_unplaced, goOn_after, hlines _ hu']

theorem follows_dynamicRows (hrest : RestFollows policy template today rest) :
    Follows policy (Within policy template today sec .dynamicTable rest)
      fun lines s => goOn policy template today rest (s.unplaced.dynamicRows policy sec lines) := by
  refine follows_of_step (fun s n hs => ⟨hs.lineNo n, fun _ => rfl⟩)
    (fun s hs => conclude_endTable hs (.inr rfl)) fun s hs line lines hlines => ?_
  have hst : s.stage ≠ .between := by simp [hs.stage_eq]
  rw [dynamicRows]
  split
  next he =>
    have hv : s.visit policy sec line
        = ((s.endTable policy).1, .ok ⟨(s.endTable policy).2, false⟩) := by
      simp only [Session.visit, hs.stage_eq, he, if_true, endTableAt]
    exact concludeFrom_endTable hrest hs hst hs hv
  next he =>
  rw [dynamicLine_unplaced]
  cases hr : s.dynamicLine policy sec line with
  | mk u result =>
      cases result with
      | error fault =>
          have hv : s.visit policy sec line = (u, .error fault) := by
            simp only [Session.visit, hs.stage_eq, if_neg he, hr]
          exact concludeFrom_fault hst hs.current_eq hv
      | ok m? =>
          have hv : s.visit policy sec line = ((u.emit? m?).1, .ok ⟨(u.emit? m?).2, true⟩) := by
            simp only [Session.visit, hs.stage_eq, if_neg he, hr]
          have hu : Within policy template today sec .dynamicTable rest (u.emit? m?).1 := by
            obtain ⟨header, rfl⟩ := dynamicLine_header hr
            exact (hs.header header).emit? rfl
          simp only
          rw [concludeFrom_usedUp hst hs.current_eq hv, emit?_unplaced, goOn_after, hlines _ hu]

theorem follows_headings (hrest : RestFollows policy template today rest) :
    Follows policy (Within policy template today sec .tableHeader rest)
      fun lines s =>
        goOn policy template today rest (s.unplaced.rows policy sec (lines.drop 1)) := by
  refine follows_of_step (fun s n hs => ⟨hs.lineNo n, fun _ => rfl⟩) (fun s hs => ?_)
    fun s hs line lines _ => ?_
  · have hheld : s.unplaced.held = none := hs.before.tidy.held_eq_none (by simp [hs.stage_eq])
    rw [conclude_nil, finish, hs.stage_eq, List.drop_nil, rows, close, hheld, goOn,
      readSections_nil]
    rfl
  have hst : s.stage ≠ .between := by simp [hs.stage_eq]
  have hv : s.visit policy sec line = ({ s with stage := .table }, .ok ⟨[], true⟩) := by
    simp only [Session.visit, hs.stage_eq]
  rw [concludeFrom_usedUp hst hs.current_eq hv, after_nil]
  exact (follows_rows hrest _ ⟨hs.visit hv, hs.current_eq, rfl⟩ lines).1

/-! ## All sections -/

/-- A session that has left all sections reads nothing more. -/
theorem conclude_of_exhausted {lines : List Text} (hst : s.stage = .ignoring)
    (hcur : s.current = none) : s.conclude policy lines = .ok ⟨s.header, []⟩ := by
  induction lines generalizing s with
  | nil => rw [conclude_nil, finish, hst]; rfl
  | cons line lines ih =>
      have hread : readLine policy (trimLineEnd line) { s with lineNo := s.lineNo + 1 }
          = ({ s with lineNo := s.lineNo + 1 }, .ok []) :=
        feed_of_exhausted policy line hst hcur
      have hrest := ih (s := { s with lineNo := s.lineNo + 1 }) hst hcur
      rw [conclude_cons, concludeFrom, hread]
      simp only [hrest]
      rfl

theorem Before.enter (hs : Before policy template today (sec :: rest) s)
    (hst : s.stage = .between) :
    Within policy template today sec (firstStage sec) rest (s.enter sec) := by
  exact ⟨⟨hs.tidy.enter hst (mem_sections_of_upcoming hs.upcoming_eq), hs.template_eq, hs.today_eq,
    upcoming_enter hs.upcoming_eq⟩, rfl, rfl⟩

/-- A section is entered with nothing but the header. -/
theorem enter_unplaced (hs : Before policy template today (sec :: rest) s)
    (hst : s.stage = .between) : (s.enter sec).unplaced = sec.desk template today s.header := by
  have hheld := hs.tidy.held_eq_none (by simp [hst])
  have hcount := hs.tidy.foldCount_eq hheld
  simp [unplaced, Session.enter, Section.desk, hheld, hcount, hs.template_eq, hs.today_eq]

/-- The induction over the sections still to come. A session that stands between two sections enters
the next one with the line at hand, and is followed there by the lemma for the section's first
stage. -/
theorem restFollows (policy : Option Continuation) (template : Template) (today : Date)
    (secs : List Section) : RestFollows policy template today secs := by
  induction secs with
  | nil =>
      refine follows_of_step (fun s n hs => ⟨⟨hs.1.lineNo n, hs.2⟩, fun _ => rfl⟩)
        (fun s hs => ?_) fun s hs line lines _ => ?_
      · rw [conclude_nil, finish, hs.2]
        rfl
      · have hread := (readLine_of_between policy line hs.2).1
        rw [hs.1.upcoming_eq, passOn] at hread
        rw [concludeFrom, hread]
        simp only [conclude_of_exhausted (s := s.exhaust) rfl rfl]
        rfl
  | cons sec rest ih =>
      refine follows_of_step (fun s n hs => ⟨⟨hs.1.lineNo n, hs.2⟩, fun _ => rfl⟩)
        (fun s hs => ?_) fun s hs line lines _ => ?_
      · rw [conclude_nil, finish, hs.2, readSections_nil]
        rfl
      obtain ⟨hs, hst⟩ := hs
      have hwithin := hs.enter hst
      show s.concludeFrom policy line lines = goOn policy template today rest
        (sec.read policy template today (line :: lines.map trimLineEnd) s.header)
      rw [concludeFrom_enter hst hs.upcoming_eq, Section.read, ← enter_unplaced hs hst]
      unfold firstStage at hwithin
      cases hkind : sec.kind with
      | ignore =>
          rw [hkind] at hwithin
          rw [goOn, after_nil]
          exact (follows_ignoring ih _ hwithin lines).2 line
      | keyValue =>
          rw [hkind] at hwithin
          exact (follows_keyValue ih _ hwithin lines).2 line
      | table =>
          rw [hkind] at hwithin
          simp only at hwithin ⊢
          split at hwithin
          next hheader =>
            rw [if_pos hheader]
            exact (follows_headings ih _ hwithin lines).2 line
          next hheader =>
            rw [if_neg hheader]
            exact (follows_rows ih _ hwithin lines).2 line
      | dynamicTable =>
          rw [hkind] at hwithin
          exact (follows_dynamicRows ih _ hwithin lines).2 line

end

/-- A run follows all sections of its template. -/
theorem run_follows (template : Template) (policy : Option Continuation) (today : Date)
    (lines : List Text) :
    template.run policy today lines
      = template.readSections policy today template.sections (lines.map trimLineEnd) {} := by
  have hbefore : Before policy template today template.sections (start template today) :=
    ⟨tidy_start policy template today, rfl, rfl, rfl⟩
  exact (restFollows policy template today template.sections _ ⟨hbefore, rfl⟩ lines).1

/-- Feeding the lines of a statement to a session gives what the sections of the template read from
them one after the other, each taking its lines off the front: the same header and movements, or the
same fault. There is no assumption on template, policy or lines. -/
theorem run_eq_readSections (template : Template) (policy : Option Continuation) (today : Date)
    (lines : List Text) :
    template.run policy today lines
        = template.readSections policy today template.sections (lines.map trimLineEnd) {}
      ∧ ∀ (sec : Section) (left : List Text) (header : Header) (part : Part),
        sec.read policy template today left header = .ok part → part.rest <:+ left := by
  exact ⟨run_follows template policy today lines, fun _ _ _ _ hread => rest_suffix_of_read hread⟩

/-- A section that is passed over leaves the line with its end keyword. -/
theorem run_eq_readSections_skip :
    (Section.skip "Head" ["Begin"]).read none (Template.dated false "x") ⟨2024, 12, 31, by decide⟩
        ["Page 1".toList, "Begin".toList, "01.02.2024 x".toList] {}
        = .ok ⟨{}, [], ["Begin".toList, "01.02.2024 x".toList]⟩
      ∧ ["Begin".toList, "01.02.2024 x".toList]
        <:+ ["Page 1".toList, "Begin".toList, "01.02.2024 x".toList] := by
  have hrest : (Section.skip "Head" ["Begin"]).passOver
      ["Page 1".toList, "Begin".toList, "01.02.2024 x".toList]
      = ["Begin".toList, "01.02.2024 x".toList] := by
    decide +kernel
  have hread : (Section.skip "Head" ["Begin"]).read none (Template.dated false "x")
      ⟨2024, 12, 31, by decide⟩ ["Page 1".toList, "Begin".toList, "01.02.2024 x".toList] {}
      = .ok ⟨{}, [], ["Begin".toList, "01.02.2024 x".toList]⟩ := by
    rw [← hrest]
    rfl
  exact ⟨hread, (run_eq_readSections _ none _ []).2 _ _ _ _ hread⟩

end BankStatement.Session
