import BankStatement.Proofs.Session.Visit

/-!
# The way of a line through the sections

One line can be looked at in several sections: a section that it ends hands it on, the next section
is entered and looks at it again. `Passage` is this way as a relation, one constructor for each turn
that it can take, together with the list of looks: every section that looked at the line, with the
session as it stood then.

`readLine_passage` says that `readLine` goes this way, with the looks that `looks` computes. Facts
about whole lines are inductions on `Passage`, in which the recursion over the sections still to be
entered does not show any more: the case of a section that uses the line up is the invariant of one
look, the case of one that hands it on adds the induction hypothesis. The list of looks is part of
the relation because some facts are not about where the way ends but about every stop on it, such as
where a fault came from or which section a movement began in.

`passOn` carries what has been given out so far as an argument. `passOn_given` takes it out of the
recursion once, so that the relation can speak of each turn's own movements.

`Placed` says that the current section is the one entered last. It is apart from the invariant of
`Proofs.Session.Invariant` because it is needed of sessions without any assumption on a policy.
-/

namespace BankStatement.Session

variable {policy : Option Continuation} {sec : Section} {line : Text} {s t : Session}

/-- The looks at a line that is passed on through sections still to be entered. -/
def looksOn (policy : Option Continuation) (line : Text) :
    List Section → Session → List (Section × Session)
  | [], _ => []
  | sec :: rest, s =>
    (sec, s.enter sec) ::
      match (s.enter sec).visit policy sec line with
      | (t, .ok ⟨_, false⟩) => looksOn policy line rest t
      | _ => []

/-- The looks at a line: each section that it is read in, with the session as it stands then. -/
def looks (policy : Option Continuation) (line : Text) (s : Session) : List (Section × Session) :=
  match s.stage, s.current with
  | .between, _ => looksOn policy line s.upcoming s
  | _, none => []
  | _, some sec =>
    (sec, s) ::
      match s.visit policy sec line with
      | (t, .ok ⟨_, false⟩) => looksOn policy line t.upcoming t
      | _ => []

/-- The way of a line, from the session it is read in to what comes of it. -/
inductive Passage (policy : Option Continuation) (line : Text) :
    Session → List (Section × Session) → Session → Except Fault (List Movement) → Prop where
  /-- The next section is entered and looks at the line. -/
  | enter {s t : Session} {sec : Section} {rest : List Section} {looks : List (Section × Session)}
      {r : Except Fault (List Movement)} (hst : s.stage = .between)
      (hup : s.upcoming = sec :: rest) (hp : Passage policy line (s.enter sec) looks t r) :
      Passage policy line s looks t r
  /-- There is no next section. -/
  | exhaust {s : Session} (hst : s.stage = .between) (hup : s.upcoming = []) :
      Passage policy line s [] s.exhaust (.ok [])
  /-- All sections have been left before. -/
  | idle {s : Session} (hst : s.stage ≠ .between) (hcur : s.current = none) :
      Passage policy line s [] s (.ok [])
  /-- The line cannot be read. -/
  | fault {s t : Session} {sec : Section} {fault : Fault} (hst : s.stage ≠ .between)
      (hcur : s.current = some sec) (hv : s.visit policy sec line = (t, .error fault)) :
      Passage policy line s [(sec, s)] t (.error fault)
  /-- The section uses the line up. -/
  | usedUp {s t : Session} {sec : Section} {given : List Movement} (hst : s.stage ≠ .between)
      (hcur : s.current = some sec) (hv : s.visit policy sec line = (t, .ok ⟨given, true⟩)) :
      Passage policy line s [(sec, s)] t (.ok given)
  /-- The section hands the line on. -/
  | handedOn {s t u : Session} {sec : Section} {given : List Movement}
      {looks : List (Section × Session)} {r : Except Fault (List Movement)}
      (hst : s.stage ≠ .between) (hcur : s.current = some sec)
      (hv : s.visit policy sec line = (t, .ok ⟨given, false⟩))
      (hp : Passage policy line t looks u r) :
      Passage policy line s ((sec, s) :: looks) u (r.map (given ++ ·))

theorem stage_enter (s : Session) (sec : Section) : (s.enter sec).stage ≠ .between := by
  unfold enter firstStage
  cases sec.kind <;> simp
  split <;> simp

theorem upcoming_enter {rest : List Section} (hup : s.upcoming = sec :: rest) :
    (s.enter sec).upcoming = rest := by
  have htail := congrArg List.tail hup
  simpa [upcoming, enter] using htail

/-- What a line gives on its way through sections still to be entered comes after what it had
given before. -/
theorem passOn_given (policy : Option Continuation) (line : Text) (secs : List Section)
    (given : List Movement) (s : Session) :
    passOn policy line secs given s = ((passOn policy line secs [] s).1,
      (passOn policy line secs [] s).2.map (given ++ ·)) := by
  induction secs generalizing s given with
  | nil => simp [passOn, Except.map]
  | cons sec rest ih =>
      unfold passOn
      cases (s.enter sec).visit policy sec line with
      | mk t r =>
          cases r with
          | error => rfl
          | ok v =>
              obtain ⟨own, _ | _⟩ := v
              · simp only [Bool.false_eq_true, if_false, List.nil_append]
                rw [ih (given ++ own), ih own]
                cases (passOn policy line rest [] t).2 <;> simp [Except.map]
              · simp [Except.map]

theorem passOn_passage (policy : Option Continuation) (line : Text) (secs : List Section)
    (hst : s.stage = .between) (hup : s.upcoming = secs) :
    Passage policy line s (looksOn policy line secs s) (passOn policy line secs [] s).1
      (passOn policy line secs [] s).2 := by
  induction secs generalizing s with
  | nil => exact .exhaust hst hup
  | cons sec rest ih =>
      cases hv : (s.enter sec).visit policy sec line with
      | mk t r =>
          unfold passOn looksOn
          rw [hv]
          cases r with
          | error fault => exact .enter hst hup (.fault (stage_enter s sec) rfl hv)
          | ok v =>
              obtain ⟨own, _ | _⟩ := v
              · have hup' := (upcoming_of_standing (standing_visit hv)).trans (upcoming_enter hup)
                have hp := ih (stage_of_handedOn hv) hup'
                simp only [Bool.false_eq_true, if_false, List.nil_append]
                rw [passOn_given]
                exact .enter hst hup (.handedOn (stage_enter s sec) rfl hv hp)
              · exact .enter hst hup (.usedUp (stage_enter s sec) rfl hv)

theorem readLine_of_between (policy : Option Continuation) (line : Text)
    (hst : s.stage = .between) :
    s.readLine policy line = passOn policy line s.upcoming [] s
      ∧ s.looks policy line = looksOn policy line s.upcoming s := by
  simp only [readLine, looks, hst, and_self]

theorem readLine_of_no_section (policy : Option Continuation) (line : Text)
    (hst : s.stage ≠ .between) (hcur : s.current = none) :
    s.readLine policy line = (s, .ok []) ∧ s.looks policy line = [] := by
  unfold readLine looks
  rw [hcur]
  cases hst' : s.stage with
  | between => exact absurd hst' hst
  | _ => exact ⟨rfl, rfl⟩

theorem readLine_of_section (policy : Option Continuation) (line : Text)
    (hst : s.stage ≠ .between) (hcur : s.current = some sec) :
    s.readLine policy line = (match s.visit policy sec line with
      | (t, .error fault) => (t, .error fault)
      | (t, .ok v) =>
        if v.usedUp then (t, .ok v.movements) else passOn policy line t.upcoming v.movements t)
      ∧ s.looks policy line = (sec, s) :: (match s.visit policy sec line with
      | (t, .ok ⟨_, false⟩) => looksOn policy line t.upcoming t
      | _ => []) := by
  unfold readLine looks
  rw [hcur]
  cases hst' : s.stage with
  | between => exact absurd hst' hst
  | _ => exact ⟨rfl, rfl⟩

/-- Reading a line is a passage. The three cases are where the session stands before it: between two
sections, behind the last one, or within one. -/
theorem readLine_passage (policy : Option Continuation) (line : Text) (s : Session) :
    Passage policy line s (s.looks policy line) (s.readLine policy line).1
      (s.readLine policy line).2 := by
  by_cases hst : s.stage = .between
  · obtain ⟨hread, hlooks⟩ := readLine_of_between policy line hst
    rw [hread, hlooks]
    exact passOn_passage policy line s.upcoming hst rfl
  cases hcur : s.current with
  | none =>
      obtain ⟨hread, hlooks⟩ := readLine_of_no_section policy line hst hcur
      rw [hread, hlooks]
      exact .idle hst hcur
  | some sec =>
      obtain ⟨hread, hlooks⟩ := readLine_of_section policy line hst hcur
      rw [hread, hlooks]
      cases hv : s.visit policy sec line with
      | mk t r =>
          cases r with
          | error fault => exact .fault hst hcur hv
          | ok v =>
              obtain ⟨own, _ | _⟩ := v
              · have hp := passOn_passage policy line t.upcoming (stage_of_handedOn hv) rfl
                simp only [Bool.false_eq_true, if_false]
                rw [passOn_given]
                exact .handedOn hst hcur hv hp
              · exact .usedUp hst hcur hv

theorem feed_passage (policy : Option Continuation) (line : Text) (s : Session) :
    Passage policy (trimLineEnd line) { s with lineNo := s.lineNo + 1 }
      (looks policy (trimLineEnd line) { s with lineNo := s.lineNo + 1 })
      (s.feed policy line).1 (s.feed policy line).2 :=
  readLine_passage ..

/-- A line on its way changes neither the template nor the dates and numbers of the session. -/
theorem Passage.standing {looks : List (Section × Session)} {r : Except Fault (List Movement)}
    (hp : Passage policy line s looks t r) :
    t.template = s.template ∧ t.today = s.today ∧ t.lineNo = s.lineNo := by
  induction hp with
  | enter _ _ _ ih => exact ih
  | exhaust | idle => exact ⟨rfl, rfl, rfl⟩
  | fault _ _ hv | usedUp _ _ hv =>
      obtain ⟨htemplate, htoday, -, hline⟩ := fields_of_standing (standing_visit hv)
      exact ⟨htemplate, htoday, hline⟩
  | handedOn _ _ hv _ ih =>
      obtain ⟨htemplate, htoday, -, hline⟩ := fields_of_standing (standing_visit hv)
      exact ⟨ih.1.trans htemplate, ih.2.1.trans htoday, ih.2.2.trans hline⟩

/-! ## The current section -/

/-- The current section is the one entered last, and without one no line is read. -/
structure Placed (s : Session) : Prop where
  current_eq : ∀ sec, s.current = some sec →
    ∃ i, s.entered = i + 1 ∧ s.template.sections[i]? = some sec
  idle : s.current = none → s.stage = .between ∨ s.stage = .ignoring

theorem placed_start (template : Template) (today : Date) : Placed (start template today) where
  current_eq := by simp [start]
  idle _ := .inl rfl

theorem Placed.lineNo (hs : Placed s) (n : Nat) : Placed { s with lineNo := n } :=
  ⟨hs.current_eq, hs.idle⟩

theorem Placed.enter {rest : List Section} (hup : s.upcoming = sec :: rest) :
    Placed (s.enter sec) where
  current_eq := by
    rintro _ ⟨⟩
    refine ⟨s.entered, rfl, ?_⟩
    have hhead : s.upcoming[0]? = some sec := by rw [hup]; rfl
    rwa [upcoming, List.getElem?_drop] at hhead
  idle h := by cases h

theorem Placed.of_standing (hs : Placed s) (hcur : s.current = some sec)
    (h : t.standing = s.standing) : Placed t := by
  simp only [standing, Standing.mk.injEq] at h
  obtain ⟨htemplate, -, hentered, hcurrent, -, -⟩ := h
  refine ⟨?_, fun hnone => ?_⟩
  · rw [htemplate, hentered, hcurrent]
    exact hs.current_eq
  · rw [hcurrent, hcur] at hnone
    cases hnone

theorem Passage.placed {looks : List (Section × Session)} {r : Except Fault (List Movement)}
    (hp : Passage policy line s looks t r) (hs : Placed s) : Placed t := by
  induction hp with
  | enter _ hup _ ih => exact ih (.enter hup)
  | exhaust => exact ⟨by simp [Session.exhaust], fun _ => .inr rfl⟩
  | idle => exact hs
  | fault _ hcur hv | usedUp _ hcur hv => exact hs.of_standing hcur (standing_visit hv)
  | handedOn _ hcur hv _ ih => exact ih (hs.of_standing hcur (standing_visit hv))

/-! ## Several lines -/

theorem feedAll_cons {u : Session} {own : List Movement} (lines : List Text)
    (hfeed : s.feed policy line = (u, .ok own)) :
    s.feedAll policy (line :: lines)
      = (u.feedAll policy lines).map fun (t, given) => (t, own ++ given) := by
  simp only [feedAll, hfeed]
  cases u.feedAll policy lines <;> rfl

/-- The first line of some that are read is read itself. -/
theorem feedAll_cons_ok {lines : List Text} {given : List Movement}
    (h : s.feedAll policy (line :: lines) = .ok (t, given)) :
    ∃ u own others, s.feed policy line = (u, .ok own) ∧ u.feedAll policy lines = .ok (t, others)
      ∧ given = own ++ others := by
  cases hfeed : s.feed policy line with
  | mk u r =>
      cases r with
      | error => simp [feedAll, hfeed] at h
      | ok own =>
          rw [feedAll_cons lines hfeed] at h
          cases hrest : u.feedAll policy lines with
          | error => rw [hrest] at h; cases h
          | ok rest => rw [hrest] at h; cases h; exact ⟨u, own, rest.2, rfl, hrest, rfl⟩

/-- Lines may be read in two parts. Proofs about a statement of known parts (a front, a table, a
tail) follow one part at a time and meet at the session between them. -/
theorem feedAll_append {before : List Text} {u : Session} {own : List Movement}
    (lines : List Text) (h : s.feedAll policy before = .ok (u, own)) :
    s.feedAll policy (before ++ lines)
      = (u.feedAll policy lines).map fun (t, given) => (t, own ++ given) := by
  induction before generalizing s own with
  | nil =>
      cases h
      simp only [List.nil_append]
      cases u.feedAll policy lines <;> rfl
  | cons line before ih =>
      obtain ⟨v, own', others, hfeed, hrest, rfl⟩ := feedAll_cons_ok h
      rw [List.cons_append, feedAll_cons _ hfeed, ih hrest]
      cases u.feedAll policy lines <;> simp [Except.map]

theorem feedAll_template {lines : List Text} {given : List Movement}
    (h : s.feedAll policy lines = .ok (t, given)) : t.template = s.template := by
  induction lines generalizing s given with
  | nil => cases h; rfl
  | cons line lines ih =>
      obtain ⟨u, own, others, hfeed, hrest, -⟩ := feedAll_cons_ok h
      have hp := feed_passage policy line s
      rw [hfeed] at hp
      exact (ih hrest).trans hp.standing.1

theorem feedAll_today {lines : List Text} {given : List Movement}
    (h : s.feedAll policy lines = .ok (t, given)) : t.today = s.today := by
  induction lines generalizing s given with
  | nil => cases h; rfl
  | cons line lines ih =>
      obtain ⟨u, own, others, hfeed, hrest, -⟩ := feedAll_cons_ok h
      have hp := feed_passage policy line s
      rw [hfeed] at hp
      exact (ih hrest).trans hp.standing.2.1

theorem placed_feedAll {lines : List Text} {given : List Movement} (hs : Placed s)
    (h : s.feedAll policy lines = .ok (t, given)) : Placed t := by
  induction lines generalizing s given with
  | nil => cases h; exact hs
  | cons line lines ih =>
      obtain ⟨u, own, others, hfeed, hrest, -⟩ := feedAll_cons_ok h
      have hp := (feed_passage policy line s).placed (hs.lineNo _)
      rw [hfeed] at hp
      exact ih hp hrest

end BankStatement.Session
