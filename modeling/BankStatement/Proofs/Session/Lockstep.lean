import BankStatement.Proofs.Session.Sections

/-!
# Two readings that keep pace

Two sessions read the same lines, and one of them may be behind: it still owes movements that the
other one has given out. As long as every look at a line leaves them so, both come to the same
statement, or to the same fault, once the debt is paid.

`Lockstep` says what has to be shown of two readings: how the sessions are paired, with the
movements owed, and that entering, looking at a line and finishing keep them paired. Its one step
that is not routine is `visit`. `Lockstep.conclude_eq` is the induction over sections and lines,
made once; a pairing that holds only for some lines names them by a condition on looks, and
`Throughout` is that condition for all looks of a reading.

The debt is part of the pairing because output that comes late is not the same output after every
line, only in total. It has to be nothing between two sections (`owed_eq`); otherwise a movement
owed by a table would be paid in a section that does not know it. The sections of the second
template are given by a function on those of the first, so that the templates may differ in what a
section does, but not in where it stands.

`Proofs.Session.HoldingBack` and `Proofs.Session.DynamicTables` are the two users: one compares a
policy with none on the same template, the other a policy with none on the template without its
additional rules.
-/

namespace BankStatement.Session

/-- What holds at every look while some lines are read, up to the first fault. -/
def Throughout (policy : Option Continuation) (Fair : Section → Text → Session → Prop) :
    List Text → Session → Prop
  | [], _ => True
  | line :: lines, s =>
    (∀ look ∈ looks policy (trimLineEnd line) { s with lineNo := s.lineNo + 1 },
      Fair look.1 (trimLineEnd line) look.2)
    ∧ ((s.feed policy line).2.isOk = true → Throughout policy Fair lines (s.feed policy line).1)

/-- A condition that can be decided at one look can be decided for all looks. -/
instance Throughout.decidable (policy : Option Continuation)
    (Fair : Section → Text → Session → Prop) [∀ sec line s, Decidable (Fair sec line s)] :
    (lines : List Text) → (s : Session) → Decidable (Throughout policy Fair lines s)
  | [], _ => inferInstanceAs (Decidable True)
  | line :: lines, s =>
    have := Throughout.decidable policy Fair lines (s.feed policy line).1
    inferInstanceAs (Decidable
      ((∀ look ∈ looks policy (trimLineEnd line) { s with lineNo := s.lineNo + 1 },
        Fair look.1 (trimLineEnd line) look.2)
      ∧ ((s.feed policy line).2.isOk = true → Throughout policy Fair lines (s.feed policy line).1)))

/-- Two looks at a line have the same outcome: both fail alike, or both sessions go on as a pair,
and together with what is owed before and after they have given out the same. -/
inductive Paced (Pair : Session → Session → List Movement → Prop) (owed : List Movement) :
    Step Session Visit → Step Session Visit → Prop where
  | fault {s t : Session} {fault : Fault} : Paced Pair owed (s, .error fault) (t, .error fault)
  | on {s t : Session} {owed' given given' : List Movement} {usedUp : Bool} (h : Pair s t owed')
      (hgiven : owed ++ given' = given ++ owed') :
      Paced Pair owed (s, .ok ⟨given, usedUp⟩) (t, .ok ⟨given', usedUp⟩)

/-- Two readings keep pace: `Pair s t owed` means that `s` owes some movements that `t` has given
out. Each section of the first template has its counterpart in the second one. -/
structure Lockstep (policy policy' : Option Continuation) (counterpart : Section → Section)
    (Fair : Section → Text → Session → Prop)
    (Pair : Session → Session → List Movement → Prop) : Prop where
  stage_eq : ∀ {s t owed}, Pair s t owed → t.stage = s.stage
  current_eq : ∀ {s t owed}, Pair s t owed → t.current = s.current.map counterpart
  upcoming_eq : ∀ {s t owed}, Pair s t owed → t.upcoming = s.upcoming.map counterpart
  owed_eq : ∀ {s t owed}, Pair s t owed → s.stage = .between → owed = []
  lineNo : ∀ {s t owed}, Pair s t owed →
    Pair { s with lineNo := s.lineNo + 1 } { t with lineNo := t.lineNo + 1 } owed
  enter : ∀ {s t sec rest}, Pair s t [] → s.stage = .between → s.upcoming = sec :: rest →
    Pair (s.enter sec) (t.enter (counterpart sec)) []
  exhaust : ∀ {s t}, Pair s t [] → s.stage = .between → Pair s.exhaust t.exhaust []
  visit : ∀ {s t owed sec line}, Pair s t owed → s.current = some sec → Fair sec line s →
    Paced Pair owed (s.visit policy sec line) (t.visit policy' (counterpart sec) line)
  finish : ∀ {s t owed}, Pair s t owed →
    (s.finish policy).1.header = (t.finish policy').1.header
      ∧ (s.finish policy).2 = owed ++ (t.finish policy').2

section

variable {policy policy' : Option Continuation} {sec : Section} {line : Text} {lines : List Text}
  {s t : Session}

theorem concludeFrom_exhaust (hst : s.stage = .between) (hup : s.upcoming = []) :
    s.concludeFrom policy line lines = s.exhaust.conclude policy lines := by
  rw [concludeFrom, (readLine_of_between policy line hst).1, hup, passOn]
  exact after_nil _

theorem concludeFrom_idle (hst : s.stage ≠ .between) (hcur : s.current = none) :
    s.concludeFrom policy line lines = s.conclude policy lines := by
  rw [concludeFrom, (readLine_of_no_section policy line hst hcur).1]
  exact after_nil _

end

/-! ## The same statement -/

namespace Lockstep

variable {policy policy' : Option Continuation} {counterpart : Section → Section}
  {Fair : Section → Text → Session → Prop} {Pair : Session → Session → List Movement → Prop}
  {line : Text} {lines : List Text} {s t u : Session} {owed : List Movement}

/-- It does not matter what has been given out and what is owed if together they are the same. -/
theorem after_given {given given' owed' : List Movement} (result : Except Fault Statement)
    (hgiven : owed ++ given' = given ++ owed') :
    (result.map (·.after owed')).map (·.after given)
      = (result.map (·.after given')).map (·.after owed) := by
  rw [after_after, after_after, hgiven]

/-- Both read in a section, or neither does. -/
theorem reads (hl : Lockstep policy policy' counterpart Fair Pair) {sec : Section}
    (hpair : Pair s t owed) (hst : s.stage ≠ .between) (hcur : s.current = some sec) :
    t.stage ≠ .between ∧ t.current = some (counterpart sec) := by
  refine ⟨by rwa [hl.stage_eq hpair], ?_⟩
  rw [hl.current_eq hpair, hcur, Option.map_some]

/-- A line on its way through the sections keeps both readings together. The induction is on the
passage of the first session; the second one takes the same turns, since the pair agrees on stage
and section. -/
theorem concludeFrom_eq (hl : Lockstep policy policy' counterpart Fair Pair)
    {looks : List (Section × Session)} {r : Except Fault (List Movement)}
    (hp : Passage policy line s looks u r) (hpair : Pair s t owed)
    (hfair : ∀ look ∈ looks, Fair look.1 line look.2)
    (hlines : r.isOk = true → ∀ v owed', Pair u v owed' →
      u.conclude policy lines = (v.conclude policy' lines).map (·.after owed')) :
    s.concludeFrom policy line lines
      = (t.concludeFrom policy' line lines).map (·.after owed) := by
  induction hp generalizing t owed with
  | enter hst hup _ ih =>
      obtain rfl := hl.owed_eq hpair hst
      have hup' := hl.upcoming_eq hpair
      rw [hup, List.map_cons] at hup'
      rw [concludeFrom_enter hst hup, concludeFrom_enter ((hl.stage_eq hpair).trans hst) hup']
      exact ih (hl.enter hpair hst hup) hfair hlines
  | exhaust hst hup =>
      obtain rfl := hl.owed_eq hpair hst
      have hup' := hl.upcoming_eq hpair
      rw [hup, List.map_nil] at hup'
      rw [concludeFrom_exhaust hst hup, concludeFrom_exhaust ((hl.stage_eq hpair).trans hst) hup']
      exact hlines rfl _ _ (hl.exhaust hpair hst)
  | idle hst hcur =>
      have hcur' := hl.current_eq hpair
      rw [hcur, Option.map_none] at hcur'
      rw [concludeFrom_idle hst hcur, concludeFrom_idle (by rwa [hl.stage_eq hpair]) hcur']
      exact hlines rfl _ _ hpair
  | fault hst hcur hv =>
      obtain ⟨hst', hcur'⟩ := hl.reads hpair hst hcur
      have hpaced := hl.visit hpair hcur (hfair _ (List.mem_singleton_self _))
      rw [hv] at hpaced
      generalize hv' : t.visit policy' _ line = out at hpaced
      cases hpaced with
      | fault => rw [concludeFrom_fault hst hcur hv, concludeFrom_fault hst' hcur' hv']; rfl
  | usedUp hst hcur hv =>
      obtain ⟨hst', hcur'⟩ := hl.reads hpair hst hcur
      have hpaced := hl.visit hpair hcur (hfair _ (List.mem_singleton_self _))
      rw [hv] at hpaced
      generalize hv' : t.visit policy' _ line = out at hpaced
      cases hpaced with
      | on hpair' hgiven =>
          rw [concludeFrom_usedUp hst hcur hv, concludeFrom_usedUp hst' hcur' hv',
            hlines rfl _ _ hpair', after_given _ hgiven]
  | handedOn hst hcur hv _ ih =>
      obtain ⟨hst', hcur'⟩ := hl.reads hpair hst hcur
      have hpaced := hl.visit hpair hcur (hfair _ (List.mem_cons_self ..))
      rw [hv] at hpaced
      generalize hv' : t.visit policy' _ line = out at hpaced
      cases hpaced with
      | on hpair' hgiven =>
          have hrest := ih hpair' (fun look hlook => hfair look (List.mem_cons_of_mem _ hlook))
            fun hok => hlines (by revert hok; cases ‹Except Fault (List Movement)› <;> exact id)
          rw [concludeFrom_handedOn hst hcur hv, concludeFrom_handedOn hst' hcur' hv', hrest,
            after_given _ hgiven]

/-- Readings that keep pace come to the same statement or the same fault; what one owes comes
first. -/
theorem conclude_eq (hl : Lockstep policy policy' counterpart Fair Pair)
    (hfair : Throughout policy Fair lines s) (hpair : Pair s t owed) :
    s.conclude policy lines = (t.conclude policy' lines).map (·.after owed) := by
  induction lines generalizing s t owed with
  | nil =>
      obtain ⟨hheader, hgiven⟩ := hl.finish hpair
      rw [conclude_nil, conclude_nil, hheader, hgiven]
      rfl
  | cons line lines ih =>
      have hp := feed_passage policy line s
      rw [conclude_cons, conclude_cons]
      exact hl.concludeFrom_eq hp (hl.lineNo hpair) hfair.1
        fun hok _ _ hpair' => ih (hfair.2 hok) hpair'

end Lockstep

end BankStatement.Session
