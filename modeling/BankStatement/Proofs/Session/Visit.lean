import BankStatement.Session.Run

/-!
# What one look at a line can do

`visit` reads a line in the current section. It has a dozen ways out, and every invariant of a
session has to hold on each of them, so they are written down once: `Looked` has one constructor for
each way out of `visit`, `Folded` one for each way out of `foldLine`, and `visit_looked` and
`foldLine_folded` say that there are no others. The proofs about runs split on these and open the
functions no more. The constructors keep the guards under which a way is taken, not only what it
leads to: a proof that rules a case out needs them.

A *row* is a line that a table reads: in a table every line that is neither blank nor holds an end
keyword, in a dynamic table every line of the right length without an end keyword. Both kinds of
table are one case here, since `row` stands for `tableLine` or `dynamicLine` by the stage; what
tells them apart is only whether a policy can hold a movement back.

`Standing` is what all ways leave alone: the template, the day, the section and the number of the
line. Since a look never moves a session on, the sections still to be entered are the same behind it
(`upcoming_of_standing`), and the recursion over them in `passOn` can be followed from outside
without looking into a section.
-/

namespace BankStatement

/-- The candidate of a line neither ends the table nor begins a movement. -/
def Continuation.Continues (c : Continuation) (candidate : Option Movement) : Prop :=
  ∀ m, candidate = some m → m.isError = false ∧ c.isComplete (some m) = false

namespace Session

variable {policy : Option Continuation} {c : Continuation} {sec : Section} {line : Text}
  {s t : Session}

/-! ## Rows -/

/-- Whether a line is read as a row of the current section. -/
def isRow (sec : Section) (line : Text) (s : Session) : Bool :=
  match s.stage with
  | .table => !(Text.isBlankText line || sec.endsAt line)
  | .dynamicTable =>
    !sec.endsAt line && (sec.recordLength == 0 || Int.ofNat line.length == sec.recordLength)
  | _ => false

/-- What a line says by itself: fields and primary rules, and the additional rules if no policy
takes care of continuation lines. -/
def parse (policy : Option Continuation) (sec : Section) (line : Text) (s : Session) :
    Step Header (Option Movement) :=
  sec.readRecord s.template s.today policy.isNone line s.header

/-- What a row gives. -/
def row (policy : Option Continuation) (sec : Section) (line : Text) (s : Session) :
    Step Session (Option Movement) :=
  match s.stage with
  | .table => s.tableLine policy sec line
  | _ => s.dynamicLine policy sec line

/-- The ways out of `foldLine`. -/
inductive Folded (c : Continuation) (sec : Section) (line : Text) (s : Session) :
    Session → Except Fault (Option Movement) → Prop where
  /-- The line cannot be read. -/
  | fault {header : Header} {fault : Fault}
      (hp : s.parse (some c) sec line = (header, .error fault)) :
      Folded c sec line s { s with header } (.error fault)
  /-- Nothing is held, and the candidate is given out as it is. -/
  | returned {header : Header} {m? : Option Movement} (hh : s.held = none)
      (hp : s.parse (some c) sec line = (header, .ok m?))
      (hm : ∀ m, m? = some m → m.isError = true ∨ m.bookingDate = none) :
      Folded c sec line s { s with header } (.ok m?)
  /-- Nothing is held, and the candidate is. -/
  | opened {header : Header} {m : Movement} (hh : s.held = none)
      (hp : s.parse (some c) sec line = (header, .ok (some m))) (hm : m.isError = false)
      (hd : m.bookingDate.isSome = true) :
      Folded c sec line s (hold { s with header } m) (.ok none)
  /-- The line ends the table. -/
  | unreadable {header : Header} {m h : Movement} (hh : s.held = some h)
      (hp : s.parse (some c) sec line = (header, .ok (some m))) (hm : m.isError = true) :
      Folded c sec line s { s with header } (.ok (some m))
  /-- The candidate takes the place of what is held. -/
  | next {header : Header} {m h : Movement} (hh : s.held = some h)
      (hp : s.parse (some c) sec line = (header, .ok (some m))) (hm : m.isError = false)
      (hc : c.isComplete (some m) = true) :
      Folded c sec line s (hold { s with header } m) (.ok (some h))
  /-- The line would continue what is held, but it is to be ignored. -/
  | ignored {header : Header} {m? : Option Movement} {h : Movement} (hh : s.held = some h)
      (hp : s.parse (some c) sec line = (header, .ok m?)) (hm : c.Continues m?)
      (hi : sec.ignores line = true) :
      Folded c sec line s { s with header } (.ok none)
  /-- The line continues what is held. -/
  | continued {header : Header} {m? : Option Movement} {h : Movement} (hh : s.held = some h)
      (hp : s.parse (some c) sec line = (header, .ok m?)) (hm : c.Continues m?)
      (hi : sec.ignores line = false) {t : Session} {r : Except Fault (Option Movement)}
      (hf : foldRules line (sec.rulesOf .additional) { s with header } = (t, r)) :
      Folded c sec line s t r

/-- There is no other way out of `foldLine`. The proof opens the function once and for all, in the
order of its tests: whether the line can be read, whether something is held, whether the candidate
is complete, whether an ignore keyword stands in the line. -/
theorem foldLine_folded {r : Except Fault (Option Movement)}
    (h : s.foldLine c sec line = (t, r)) : Folded c sec line s t r := by
  suffices hout : Folded c sec line s (s.foldLine c sec line).1 (s.foldLine c sec line).2 by
    rwa [h] at hout
  unfold foldLine
  split
  next hp => exact .fault hp
  next header candidate hp =>
    simp only
    split
    next hh =>
      split
      next => exact .returned hh hp (by simp)
      next m =>
        split
        next hm => exact .returned hh hp (by simpa using hm)
        next hm =>
          simp only [Bool.or_eq_true, not_or, Bool.not_eq_true, Option.isNone_eq_false_iff] at hm
          exact .opened hh hp hm.1 hm.2
    next h hh =>
      split
      next m =>
        split
        next hm => exact .unreadable hh hp hm
        next hm =>
          split
          next hc =>
            simp only [release, hh]
            exact .next hh hp (by simpa using hm) hc
          next hc =>
            have hcont : c.Continues (some m) := by
              rintro _ ⟨⟩
              exact ⟨by simpa using hm, by simpa using hc⟩
            split
            next hi => exact .ignored hh hp hcont hi
            next hi => exact .continued hh hp hcont (by simpa using hi) rfl
      next =>
        have hcont : c.Continues none := by simp [Continuation.Continues]
        split
        next hi => exact .ignored hh hp hcont hi
        next hi => exact .continued hh hp hcont (by simpa using hi) rfl

/-- The ways out of `visit`. -/
inductive Looked (policy : Option Continuation) (sec : Section) (line : Text) (s : Session) :
    Session → Except Fault Visit → Prop where
  /-- No section has been entered. -/
  | nowhere (hst : s.stage = .between) : Looked policy sec line s s (.ok ⟨[], false⟩)
  /-- The line is passed over. -/
  | passed (hst : s.stage = .ignoring) : Looked policy sec line s s (.ok ⟨[], true⟩)
  /-- The line ends a section that holds no rows. -/
  | left (usedUp : Bool) (hst : s.stage = .ignoring ∨ s.stage = .keyValue) :
      Looked policy sec line s s.leave (.ok ⟨[], usedUp⟩)
  /-- The labels of the line are looked up. -/
  | labels {header : Header} (hst : s.stage = .keyValue)
      (hr : sec.readKeyValue s.template line s.header = (header, .ok ())) :
      Looked policy sec line s { s with header } (.ok ⟨[], true⟩)
  /-- The value of a label cannot be read. -/
  | labelFault {header : Header} {fault : Fault} (hst : s.stage = .keyValue)
      (hr : sec.readKeyValue s.template line s.header = (header, .error fault)) :
      Looked policy sec line s { s with header } (.error fault)
  /-- The line holds the column headings. -/
  | headings (hst : s.stage = .tableHeader) :
      Looked policy sec line s { s with stage := .table } (.ok ⟨[], true⟩)
  /-- A dynamic table skips a line of another length. -/
  | skipped (hst : s.stage = .dynamicTable) (hrow : s.isRow sec line = false) :
      Looked policy sec line s s (.ok ⟨[], true⟩)
  /-- The line ends a table. -/
  | closed {t : Session} (usedUp : Bool) (hst : s.stage = .table ∨ s.stage = .dynamicTable)
      (hrow : s.isRow sec line = false) {given : List Movement}
      (he : s.endTable policy = (t, given)) : Looked policy sec line s t (.ok ⟨given, usedUp⟩)
  /-- The row cannot be read, and the table does not stop on errors. -/
  | rowFault {t : Session} {fault : Fault} (hrow : s.isRow sec line = true)
      (hr : s.row policy sec line = (t, .error fault)) : Looked policy sec line s t (.error fault)
  /-- The row cannot be read and ends the table. -/
  | unreadable {t u : Session} {m : Movement} {given : List Movement} (hst : s.stage = .table)
      (hrow : s.isRow sec line = true) (hr : s.row policy sec line = (t, .ok (some m)))
      (hm : m.isError = true) (he : t.endTable policy = (u, given)) :
      Looked policy sec line s u (.ok ⟨given, false⟩)
  /-- The row is read. -/
  | read {t u : Session} {m? : Option Movement} {given : List Movement}
      (hrow : s.isRow sec line = true) (hr : s.row policy sec line = (t, .ok m?))
      (hm : ∀ m, m? = some m → m.isError = false)
      (he : t.emit? m? = (u, given)) : Looked policy sec line s u (.ok ⟨given, true⟩)

theorem isError_of_dynamicLine {m : Movement}
    (h : s.dynamicLine policy sec line = (t, .ok (some m))) : m.isError = false := by
  unfold dynamicLine at h
  split at h
  · simp at h
  · split at h
    · split at h <;> simp at h
    · simp at h
    · cases hm : ‹Movement›.isError <;> simp_all

/-- There is no other way out of `visit`. Splitting on this relation instead of the function gives a
proof the names of the cases and, in each, the session as one record update. -/
theorem visit_looked {r : Except Fault Visit} (h : s.visit policy sec line = (t, r)) :
    Looked policy sec line s t r := by
  suffices hout : Looked policy sec line s (s.visit policy sec line).1
      (s.visit policy sec line).2 by
    rwa [h] at hout
  unfold visit
  simp only [endTableAt]
  split
  next hst => exact .nowhere hst
  next hst =>
    split
    · exact .left true (.inl hst)
    · split
      · exact .left false (.inl hst)
      · exact .passed hst
  next hst =>
    split
    · exact .left true (.inr hst)
    · split
      · exact .labels hst ‹_›
      · exact .labelFault hst ‹_›
  next hst => exact .headings hst
  next hst =>
    have hr : s.row policy sec line = s.tableLine policy sec line := by simp [row, hst]
    split
    next hb => exact .closed true (.inl hst) (by simp [isRow, hst, hb]) rfl
    next hb =>
      split
      next he => exact .closed false (.inl hst) (by simp [isRow, hst, he]) rfl
      next he =>
        have hrow : s.isRow sec line = true := by simp [isRow, hst, hb, he]
        split
        next ht => exact .rowFault hrow (hr.trans ht)
        next ht => exact .read hrow (hr.trans ht) (by simp) rfl
        next ht =>
          split
          next hm => exact .unreadable hst hrow (hr.trans ht) hm rfl
          next hm => exact .read hrow (hr.trans ht) (by simpa using hm) rfl
  next hst =>
    have hr : s.row policy sec line = s.dynamicLine policy sec line := by simp [row, hst]
    split
    next he => exact .closed false (.inr hst) (by simp [isRow, hst, he]) rfl
    next he =>
      by_cases hl : sec.recordLength ≠ 0 ∧ Int.ofNat line.length ≠ sec.recordLength
      · have hd : s.dynamicLine policy sec line = (s, .ok none) := by
          simp only [dynamicLine, if_pos hl]
        have hrow : s.isRow sec line = false := by
          simp only [isRow, hst, Bool.and_eq_false_iff, Bool.or_eq_false_iff, beq_eq_false_iff_ne]
          exact .inr hl
        rw [hd]
        exact .skipped hst hrow
      · have hrow : s.isRow sec line = true := by
          simp only [isRow, hst]
          grind
        split
        next ht => exact .rowFault hrow (hr.trans ht)
        next t m? ht =>
          refine .read hrow (hr.trans ht) (fun m hm => ?_) rfl
          subst hm
          exact isError_of_dynamicLine ht

/-! ## Where a session stands -/

/-- The part of a session that no look at a line changes. -/
structure Standing where
  template : Template
  today : Date
  entered : Nat
  current : Option Section
  exhausted : Bool
  lineNo : Nat

/-- Where a session stands in its template and in the statement. -/
def standing (s : Session) : Standing :=
  ⟨s.template, s.today, s.entered, s.current, s.exhausted, s.lineNo⟩

theorem fields_of_standing (h : t.standing = s.standing) :
    t.template = s.template ∧ t.today = s.today ∧ t.current = s.current ∧ t.lineNo = s.lineNo := by
  simp only [standing, Standing.mk.injEq] at h
  exact ⟨h.1, h.2.1, h.2.2.2.1, h.2.2.2.2.2⟩

theorem upcoming_of_standing (h : t.standing = s.standing) : t.upcoming = s.upcoming := by
  simp only [standing, Standing.mk.injEq] at h
  rw [upcoming, upcoming, h.1, h.2.2.1]

theorem standing_emit? {m? : Option Movement} {given : List Movement}
    (h : s.emit? m? = (t, given)) : t.standing = s.standing := by
  unfold emit? emit at h
  split at h
  · split at h
    · split at h <;> cases h <;> rfl
    · cases h; rfl
  · cases h; rfl

theorem standing_endTable {given : List Movement} (h : s.endTable policy = (t, given)) :
    t.standing = s.standing := by
  unfold endTable at h
  split at h
  next released footer hfooter =>
    have hreleased : released.standing = s.standing := by
      split at hfooter <;> cases hfooter <;> rfl
    split at h
    next hemit => cases h; exact (standing_emit? hemit).trans hreleased

theorem stage_endTable {given : List Movement} (h : s.endTable policy = (t, given)) :
    t.stage = .between := by
  obtain rfl := congrArg Prod.fst h
  rfl

theorem standing_foldRules {rules : List Rule} {r : Except Fault (Option Movement)}
    (h : foldRules line rules s = (t, r)) : t.standing = s.standing := by
  induction rules generalizing s with
  | nil => cases h; rfl
  | cons rule rules ih =>
      unfold foldRules at h
      split at h
      · cases h; rfl
      · exact (ih h).trans rfl
      · simp only at h
        split at h
        · cases h; rfl
        · exact (ih h).trans rfl

theorem standing_foldLine {r : Except Fault (Option Movement)}
    (h : s.foldLine c sec line = (t, r)) : t.standing = s.standing := by
  cases foldLine_folded h with
  | continued _ _ _ _ hf => exact (standing_foldRules hf).trans rfl
  | _ => rfl

/-- A line of a dynamic table changes nothing but the header. -/
theorem dynamicLine_header {r : Except Fault (Option Movement)}
    (h : s.dynamicLine policy sec line = (t, r)) : ∃ header, t = { s with header } := by
  unfold dynamicLine at h
  split at h
  · cases h; exact ⟨s.header, rfl⟩
  · split at h <;> cases h <;> exact ⟨_, rfl⟩

theorem standing_row {r : Except Fault (Option Movement)}
    (h : s.row policy sec line = (t, r)) : t.standing = s.standing := by
  unfold row at h
  split at h
  · unfold tableLine at h
    split at h
    · exact standing_foldLine h
    · cases h; rfl
  · obtain ⟨header, rfl⟩ := dynamicLine_header h
    rfl

/-- A look changes neither the template nor the place in it. It may end the section, which is said
by the stage and not by the place. -/
theorem standing_visit {r : Except Fault Visit} (h : s.visit policy sec line = (t, r)) :
    t.standing = s.standing := by
  cases visit_looked h with
  | closed _ _ _ he => exact standing_endTable he
  | rowFault _ hr => exact standing_row hr
  | unreadable _ _ hr _ he => exact (standing_endTable he).trans (standing_row hr)
  | read _ hr _ he => exact (standing_emit? he).trans (standing_row hr)
  | _ => rfl

/-- A line is handed on only by a section that has been left. -/
theorem stage_of_handedOn {given : List Movement}
    (h : s.visit policy sec line = (t, .ok ⟨given, false⟩)) : t.stage = .between := by
  cases visit_looked h with
  | nowhere hst => exact hst
  | left => rfl
  | closed _ _ _ he => exact stage_endTable he
  | unreadable _ _ _ _ he => exact stage_endTable he

end Session

end BankStatement
