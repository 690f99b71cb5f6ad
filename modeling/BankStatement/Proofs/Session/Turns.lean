import BankStatement.Proofs.Session.Reached

/-!
# How often a line is looked at

Reading a line is a loop. Each turn does with the line what the stage of the session says, and some
turns leave the line for another one: a section is entered, or one that is being read ends at the
line and hands it on. `turn` is one turn, `Loop` the loop with the number of its turns.

Every turn that leaves the line over makes the session lighter (`turn_again`): entering takes a
section from those still to come, and a section that hands the line on has been left. So the loop
ends after at most two turns for each section still to come and three more (`loop_of_reaches`), and
what it comes to is what `feed` says.

The loop is written down a second time here because `feed` is a recursion on the sections still to
come, which ends by its form and shows no turns. `Loop` is a relation without fuel: it says what a
loop that runs until the line is used up comes to, whether or not it ends. That it does end is then
a theorem and not a property of the definition, and `Loop.unique` says that it ends in one way only.

The bound needs to know where a session stands. A session that is in no section and has not left
them all would have nothing to look at the line with; `Located` excludes it, and every session that
can be reached is located (`Steady.located`).
-/

namespace BankStatement

namespace Session

variable {policy : Option Continuation} {sec : Section} {line : Text} {s t : Session}
  {own given : List Movement} {n : Nat}

/-! ## Turns -/

/-- Enters the next section, or passes the end of the template. -/
def proceed (s : Session) : Session :=
  match s.upcoming with
  | [] => s.exhaust
  | sec :: _ => s.enter sec

/-- One turn of the loop over a line. A section has to be there for the line to be looked at, but
once all of them have been left the line is used up at once. -/
def turn (policy : Option Continuation) (line : Text) (s : Session) : Step Session Visit :=
  if s.stage = .between then (s.proceed, .ok ⟨[], false⟩)
  else if s.stage = .ignoring ∧ s.exhausted then (s, .ok ⟨[], true⟩)
  else
    match s.current with
    | some sec => s.visit policy sec line
    | none => (s, .error .notSupported)

/-- A turn after which the same line is looked at again. -/
def TurnsAgain (policy : Option Continuation) (line : Text) (s t : Session) : Prop :=
  ∃ own, s.turn policy line = (t, .ok ⟨own, false⟩)

/-- The loop over a line, with the number of its turns and what comes of it; `given` are the
movements that the line has brought before. -/
inductive Loop (policy : Option Continuation) (line : Text) :
    Session → List Movement → Nat → Step Session (List Movement) → Prop where
  /-- The line cannot be read. -/
  | fault {s t : Session} {given : List Movement} {fault : Fault}
      (h : s.turn policy line = (t, .error fault)) : Loop policy line s given 1 (t, .error fault)
  /-- The line is used up. -/
  | usedUp {s t : Session} {given own : List Movement}
      (h : s.turn policy line = (t, .ok ⟨own, true⟩)) :
      Loop policy line s given 1 (t, .ok (given ++ own))
  /-- The line is looked at again. -/
  | again {s t : Session} {given own : List Movement} {n : Nat} {r : Step Session (List Movement)}
      (h : s.turn policy line = (t, .ok ⟨own, false⟩))
      (hl : Loop policy line t (given ++ own) n r) : Loop policy line s given (n + 1) r

/-- How many turns a session is good for: two for each section still to be entered, and those that
its stage has left. -/
def weight (s : Session) : Nat :=
  2 * s.upcoming.length +
    match s.stage with
    | .between => 2
    | _ => if s.exhausted then 1 else 3

theorem weight_of_between (hst : s.stage = .between) : s.weight = 2 * s.upcoming.length + 2 := by
  simp only [weight, hst]

theorem weight_of_stage (hst : s.stage ≠ .between) :
    s.weight = 2 * s.upcoming.length + if s.exhausted then 1 else 3 := by
  unfold weight
  cases h : s.stage with
  | between => exact absurd h hst
  | _ => rfl

theorem weight_pos (s : Session) : 0 < s.weight := by
  by_cases hst : s.stage = .between
  · rw [weight_of_between hst]; omega
  · rw [weight_of_stage hst]; split <;> omega

theorem weight_le (s : Session) : s.weight ≤ 2 * s.upcoming.length + 3 := by
  by_cases hst : s.stage = .between
  · rw [weight_of_between hst]; omega
  · rw [weight_of_stage hst]; split <;> omega

/-! ## Where a session stands -/

/-- What the loop needs to know of a session: it looks at lines in the section that it entered last,
and without one it has left them all. -/
structure Located (s : Session) : Prop extends Placed s, Counted s

theorem Steady.located (hs : Steady policy s) : Located s := ⟨hs.toPlaced, hs.toCounted⟩

theorem Located.lineNo (hs : Located s) (n : Nat) : Located { s with lineNo := n } :=
  ⟨hs.toPlaced.lineNo n, hs.exhausted_iff, hs.unplaced⟩

/-- A session with a section has not left them all. -/
theorem Located.not_exhausted (hs : Located s) (hcur : s.current = some sec) :
    s.exhausted = false := by
  obtain ⟨i, hentered, hsec⟩ := hs.current_eq sec hcur
  have hlt := (List.getElem?_eq_some_iff.mp hsec).1
  rw [← Bool.not_eq_true, hs.exhausted_iff]
  omega

theorem Located.proceed (hs : Located s) : Located s.proceed := by
  unfold Session.proceed
  split
  next hup => exact ⟨⟨by simp [Session.exhaust], fun _ => .inr rfl⟩, .exhaust hup⟩
  next hup => exact ⟨.enter hup, hs.toCounted.enter hup⟩

theorem Located.visit {r : Except Fault Visit} (hs : Located s) (hcur : s.current = some sec)
    (h : s.visit policy sec line = (t, r)) : Located t :=
  ⟨hs.toPlaced.of_standing hcur (standing_visit h),
    hs.toCounted.of_standing hcur (standing_visit h)⟩

theorem turn_of_between (hst : s.stage = .between) :
    s.turn policy line = (s.proceed, .ok ⟨[], false⟩) := if_pos hst

theorem turn_of_section (hs : Located s) (hst : s.stage ≠ .between) (hcur : s.current = some sec) :
    s.turn policy line = s.visit policy sec line := by
  simp [turn, hst, hcur, hs.not_exhausted hcur]

/-- A session that has left all sections uses a line up at once. -/
theorem turn_of_no_section (hs : Located s) (hst : s.stage ≠ .between) (hcur : s.current = none) :
    s.turn policy line = (s, .ok ⟨[], true⟩) := by
  have hignoring : s.stage = .ignoring := (hs.idle hcur).resolve_left hst
  have hexhausted : s.exhausted = true := (hs.unplaced hcur).resolve_left hst
  simp [turn, hignoring, hexhausted]

/-! ## Turns make lighter -/

theorem weight_proceed (hst : s.stage = .between) : s.proceed.weight < s.weight := by
  rw [weight_of_between hst]
  unfold Session.proceed
  split
  next hup =>
    have hnone : s.exhaust.upcoming = [] := by
      have hlength := List.drop_eq_nil_iff.mp hup
      exact List.drop_eq_nil_iff.mpr (Nat.le_succ_of_le hlength)
    rw [weight_of_stage (by simp [Session.exhaust]), hnone]
    simp [Session.exhaust]
  next sec rest hup =>
    have hle := weight_le (s.enter sec)
    rw [upcoming_enter hup] at hle
    rw [hup, List.length_cons]
    omega

/-- A turn that leaves the line over makes the session lighter, and keeps it located. Entering a
section costs one of the two turns that the section is good for, leaving it the other one. -/
theorem turn_again (hs : Located s) (h : s.turn policy line = (t, .ok ⟨own, false⟩)) :
    Located t ∧ t.weight < s.weight := by
  by_cases hst : s.stage = .between
  · rw [turn_of_between hst] at h
    cases h
    exact ⟨hs.proceed, weight_proceed hst⟩
  cases hcur : s.current with
  | none =>
      rw [turn_of_no_section hs hst hcur] at h
      cases h
  | some sec =>
      rw [turn_of_section hs hst hcur] at h
      refine ⟨hs.visit hcur h, ?_⟩
      rw [weight_of_between (stage_of_handedOn h), upcoming_of_standing (standing_visit h),
        weight_of_stage hst, hs.not_exhausted hcur]
      simp

/-- There are no more turns than the session is good for. -/
theorem Loop.turns_le {r : Step Session (List Movement)} (hl : Loop policy line s given n r)
    (hs : Located s) : n ≤ s.weight := by
  induction hl with
  | fault | usedUp => exact weight_pos _
  | again h _ ih =>
      obtain ⟨ht, hlt⟩ := turn_again hs h
      exact Nat.lt_of_le_of_lt (ih ht) hlt

/-- The loop goes one way only. -/
theorem Loop.unique {r r' : Step Session (List Movement)} {n' : Nat}
    (hl : Loop policy line s given n r) (hl' : Loop policy line s given n' r') :
    n = n' ∧ r = r' := by
  induction hl generalizing n' r' with
  | fault h =>
      cases hl' with
      | fault h' => cases h.symm.trans h'; exact ⟨rfl, rfl⟩
      | usedUp h' | again h' => cases h.symm.trans h'
  | usedUp h =>
      cases hl' with
      | usedUp h' => cases h.symm.trans h'; exact ⟨rfl, rfl⟩
      | fault h' | again h' => cases h.symm.trans h'
  | again h _ ih =>
      cases hl' with
      | again h' hl' =>
          cases h.symm.trans h'
          obtain ⟨rfl, rfl⟩ := ih hl'
          exact ⟨rfl, rfl⟩
      | fault h' | usedUp h' => cases h.symm.trans h'

theorem located_of_again (hs : Located s)
    (h : Relation.ReflTransGen (TurnsAgain policy line) s t) : Located t := by
  induction h with
  | refl => exact hs
  | tail _ hagain ih =>
      obtain ⟨own, h⟩ := hagain
      exact (turn_again ih h).1

/-! ## The loop comes to its end -/

/-- The way of a line through the sections is a loop with the same end. -/
theorem Passage.loop {looks : List (Section × Session)} {r : Except Fault (List Movement)}
    (hp : Passage policy line s looks t r) (hs : Located s) (given : List Movement) :
    ∃ n, Loop policy line s given n (t, r.map (given ++ ·)) := by
  induction hp generalizing given with
  | @enter s t sec rest looks r hst hup _ ih =>
      have hproceed : s.proceed = s.enter sec := by rw [Session.proceed, hup]
      obtain ⟨n, hl⟩ := ih (hproceed ▸ hs.proceed) given
      exact ⟨n + 1, .again (turn_of_between hst) (by rwa [List.append_nil, hproceed])⟩
  | @exhaust s hst hup =>
      have hproceed : s.proceed = s.exhaust := by rw [Session.proceed, hup]
      have hidle : s.proceed.turn policy line = (s.proceed, .ok ⟨[], true⟩) :=
        turn_of_no_section hs.proceed (by simp [hproceed, Session.exhaust])
          (by simp [hproceed, Session.exhaust])
      refine ⟨2, .again (turn_of_between hst) ?_⟩
      rw [hproceed] at hidle ⊢
      rw [List.append_nil]
      exact .usedUp hidle
  | idle hst hcur => exact ⟨1, .usedUp (turn_of_no_section hs hst hcur)⟩
  | fault hst hcur hv => exact ⟨1, .fault ((turn_of_section hs hst hcur).trans hv)⟩
  | usedUp hst hcur hv => exact ⟨1, .usedUp ((turn_of_section hs hst hcur).trans hv)⟩
  | @handedOn s t u sec own looks r hst hcur hv _ ih =>
      obtain ⟨n, hl⟩ := ih (hs.visit hcur hv) (given ++ own)
      refine ⟨n + 1, .again ((turn_of_section hs hst hcur).trans hv) ?_⟩
      cases r with
      | error => exact hl
      | ok others => simpa [Except.map] using hl

/-- However a session has been used, the loop over a line ends with what `feed` says, after at most
two turns for each section still to be entered and three more; every turn that leaves the line over
makes the session lighter. The bound depends on where the session stands and not on the line. -/
theorem loop_of_reaches (template : Template) (policy : Option Continuation) (today : Date)
    (s : Session) (hr : Reaches policy (start template today) s) (line : Text) :
    (∃ n ≤ 2 * s.upcoming.length + 3,
        Loop policy (trimLineEnd line) { s with lineNo := s.lineNo + 1 } [] n (s.feed policy line))
      ∧ ∀ t u, Relation.ReflTransGen (TurnsAgain policy (trimLineEnd line))
          { s with lineNo := s.lineNo + 1 } t →
        TurnsAgain policy (trimLineEnd line) t u → u.weight < t.weight := by
  have hs :=
    (steady_reaches (steady_start policy template today) hr).1.located.lineNo (s.lineNo + 1)
  constructor
  · obtain ⟨n, hl⟩ := (feed_passage policy line s).loop hs []
    have hend : (s.feed policy line).2.map ([] ++ ·) = (s.feed policy line).2 := by
      cases (s.feed policy line).2 <;> rfl
    rw [hend] at hl
    exact ⟨n, Nat.le_trans (hl.turns_le hs) (weight_le _), hl⟩
  · rintro t u ht ⟨own, h⟩
    exact (turn_again (located_of_again hs ht) h).2

end Session

/-- The layout in which a line with an amount continues a movement, behind a heading. -/
def Template.headed : Template :=
  { Template.priced with sections := Section.skip "Head" ["Rows"] :: Template.priced.sections }

namespace Session

/-- A line that ends the heading and cannot be read as a row goes through all sections: it is handed
on twice and used up at the end of the template, with one section still to come in at most five
turns. -/
theorem loop_of_reaches_headed :
    Reaches (some {}) (start Template.headed ⟨2024, 12, 31, by decide⟩)
        ((start Template.headed ⟨2024, 12, 31, by decide⟩).feedOn (some {}) ["x".toList])
      ∧ (∃ n ≤ 5, Loop (some {}) "31.02.2024 Rows".toList
        { (start Template.headed ⟨2024, 12, 31, by decide⟩).feedOn (some {}) ["x".toList] with
          lineNo := 2 } [] n
        (((start Template.headed ⟨2024, 12, 31, by decide⟩).feedOn (some {}) ["x".toList]).feed
          (some {}) "31.02.2024 Rows".toList))
      ∧ (((start Template.headed ⟨2024, 12, 31, by decide⟩).feedOn (some {}) ["x".toList]).feed
          (some {}) "31.02.2024 Rows".toList).1.exhausted = true := by
  have hr := reaches_feedOn (some {}) ["x".toList]
    (start Template.headed ⟨2024, 12, 31, by decide⟩)
  obtain ⟨⟨n, hn, hl⟩, -⟩ := loop_of_reaches _ _ _ _ hr "31.02.2024 Rows".toList
  exact ⟨hr, ⟨n, hn, hl⟩, by decide +kernel⟩

end Session

end BankStatement
