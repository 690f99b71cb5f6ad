import BankStatement.Proofs.Session.Containment

/-!
# What becomes of a line under a continuation policy

The ways of a line through `foldLine` as equations: a movement that stands on its own lets go of the
held one and is held instead (`foldLine_starts`), any other line is tried with the additional rules
on the held movement, and is passed over where nothing is held (`foldLine_passes`). A table with one
additional rule either leaves the session as it was or changes the held movement, which it lets go
once the rule has continued it as often as it may (`foldRules_of_found`, `foldRules_of_spent`).

`Folded` in `Proofs.Session.Visit` says the same of an unknown way, for invariants. Here the way is
known, because the caller knows what the line says, and the result is wanted as a term: the proofs
about statements of a bank follow a session line by line, and each step has to name the session
behind it. The second half of the module lifts these equations from a row to `visit` and `feed`, for
tables that keep duplicates; there what is let go is what is given out.
-/

namespace BankStatement.Session

variable {c : Continuation} {sec : Section} {line : Text} {s : Session} {header : Header}
  {m : Movement}

theorem foldLine_opens (hheld : s.held = none)
    (hread : sec.readRecord s.template s.today false line s.header = (header, .ok (some m)))
    (herror : m.isError = false) (hdate : m.bookingDate.isSome = true) :
    s.foldLine c sec line = ({ s with header, held := some m, foldCount := 0 }, .ok none) := by
  have hnone : m.bookingDate.isNone = false := by simpa using hdate
  unfold foldLine
  simp only [hread, hheld, herror, hnone, Bool.or_self, Bool.false_eq_true, if_false]
  rfl

theorem foldLine_starts {h : Movement} (hheld : s.held = some h)
    (hread : sec.readRecord s.template s.today false line s.header = (header, .ok (some m)))
    (herror : m.isError = false) (hcomplete : c.isComplete (some m) = true) :
    s.foldLine c sec line = ({ s with header, held := some m, foldCount := 0 }, .ok (some h)) := by
  unfold foldLine
  simp only [hread, hheld, herror, hcomplete, Bool.false_eq_true, if_false, if_true, release, hold]

/-- A complete movement is held, and what was held before is given out. -/
theorem foldLine_complete
    (hread : sec.readRecord s.template s.today false line s.header = (header, .ok (some m)))
    (herror : m.isError = false) (hcomplete : c.isComplete (some m) = true) :
    s.foldLine c sec line = ({ s with header, held := some m, foldCount := 0 }, .ok s.held) := by
  cases hheld : s.held with
  | some h => exact foldLine_starts hheld hread herror hcomplete
  | none =>
      have hdate : m.bookingDate.isSome = true := by
        rw [Continuation.isComplete, Bool.and_eq_true] at hcomplete
        exact hcomplete.1
      exact foldLine_opens hheld hread herror hdate

theorem foldLine_passes (hheld : s.held = none)
    (hread : sec.readRecord s.template s.today false line s.header = (header, .ok none)) :
    s.foldLine c sec line = ({ s with header }, .ok none) := by
  unfold foldLine
  simp only [hread, hheld]

/-! ## One additional rule -/

variable {r : Rule} {held : Option Movement}

theorem foldRules_of_notFound
    (happly : r.apply s.template line .always ⟨s.header, s.held⟩ = (⟨header, held⟩, .ok false)) :
    foldRules line [r] s = ({ s with header, held }, .ok none) := by
  simp only [foldRules, happly]

theorem foldRules_of_found
    (happly : r.apply s.template line .always ⟨s.header, s.held⟩ = (⟨header, held⟩, .ok true))
    (hspent : r.isSpent (s.foldCount + 1) = false) :
    foldRules line [r] s
      = ({ s with header, held, foldCount := s.foldCount + 1 }, .ok none) := by
  simp only [foldRules, happly, hspent, Bool.false_eq_true, if_false]

theorem foldRules_of_spent
    (happly : r.apply s.template line .always ⟨s.header, s.held⟩ = (⟨header, held⟩, .ok true))
    (hspent : r.isSpent (s.foldCount + 1) = true) :
    foldRules line [r] s = ({ s with header, held := none, foldCount := 0 }, .ok held) := by
  simp only [foldRules, happly, hspent, if_true, release]

/-! ## Lines of a table -/

variable {t : Session} {m? : Option Movement}

theorem emit?_of_keeps (hcur : s.current = some sec) (hkeeps : sec.removeDuplicates = false)
    (m? : Option Movement) : s.emit? m? = (s, m?.toList) := by
  cases m? with
  | none => rfl
  | some m => simp [emit?, emit, hcur, hkeeps]

theorem visit_of_foldLine (hst : s.stage = .table) (hcur : s.current = some sec)
    (hkeeps : sec.removeDuplicates = false) (hfull : Text.isBlankText line = false)
    (hinside : sec.endsAt line = false) (hfold : s.foldLine c sec line = (t, .ok m?))
    (hm : ∀ m ∈ m?, m.isError = false) :
    s.visit (some c) sec line = (t, .ok ⟨m?.toList, true⟩) := by
  have hcur' : t.current = some sec :=
    (fields_of_standing (standing_foldLine hfold)).2.2.1.trans hcur
  simp only [visit, hst, hfull, hinside, tableLine, hfold, Bool.false_eq_true, if_false]
  cases m? with
  | none => rfl
  | some m =>
      have hemit : t.emit m = (t, [m]) := emit?_of_keeps hcur' hkeeps (some m)
      simp only [hm m rfl, hemit, Bool.false_eq_true, if_false, Option.toList_some]

theorem visit_of_foldLine_error {fault : Fault} (hst : s.stage = .table)
    (hfull : Text.isBlankText line = false) (hinside : sec.endsAt line = false)
    (hfold : s.foldLine c sec line = (t, .error fault)) :
    s.visit (some c) sec line = (t, .error fault) := by
  simp only [visit, hst, hfull, hinside, tableLine, hfold, Bool.false_eq_true, if_false]

/-- A line that is folded without a fault brings the movement that it lets go. -/
theorem feed_of_trimmed (hst : s.stage = .table) (hcur : s.current = some sec)
    (hkeeps : sec.removeDuplicates = false) (hfull : Text.isBlankText (trimLineEnd line) = false)
    (hinside : sec.endsAt (trimLineEnd line) = false)
    (hfold : ({ s with lineNo := s.lineNo + 1 } : Session).foldLine c sec (trimLineEnd line)
      = (t, .ok m?))
    (hm : ∀ m ∈ m?, m.isError = false) : s.feed (some c) line = (t, .ok m?.toList) := by
  have hvisit := visit_of_foldLine (s := { s with lineNo := s.lineNo + 1 }) hst hcur hkeeps hfull
    hinside hfold hm
  have hread := (readLine_of_section (s := { s with lineNo := s.lineNo + 1 }) (some c)
    (trimLineEnd line) (by simp [hst]) hcur).1
  rw [feed, hread, hvisit]
  rfl

theorem feed_of_foldLine (hst : s.stage = .table) (hcur : s.current = some sec)
    (hkeeps : sec.removeDuplicates = false) (hline : trimLineEnd line = line)
    (hfull : Text.isBlankText line = false) (hinside : sec.endsAt line = false)
    (hfold : ({ s with lineNo := s.lineNo + 1 } : Session).foldLine c sec line = (t, .ok m?))
    (hm : ∀ m ∈ m?, m.isError = false) :
    s.feed (some c) line = (t, .ok m?.toList) := by
  rw [← hline] at hfull hinside hfold
  exact feed_of_trimmed hst hcur hkeeps hfull hinside hfold hm

/-- A fault of the fold is the fault of the line. -/
theorem feed_of_foldLine_error {fault : Fault} (hst : s.stage = .table)
    (hcur : s.current = some sec)
    (hfull : Text.isBlankText (trimLineEnd line) = false)
    (hinside : sec.endsAt (trimLineEnd line) = false)
    (hfold : ({ s with lineNo := s.lineNo + 1 } : Session).foldLine c sec (trimLineEnd line)
      = (t, .error fault)) : s.feed (some c) line = (t, .error fault) := by
  have hvisit := visit_of_foldLine_error (s := { s with lineNo := s.lineNo + 1 }) hst hfull hinside
    hfold
  have hread := (readLine_of_section (s := { s with lineNo := s.lineNo + 1 }) (some c)
    (trimLineEnd line) (by simp [hst]) hcur).1
  rw [feed, hread, hvisit]

/-- The end of a table brings what is held. -/
theorem endTable_of_keeps (hcur : s.current = some sec) (hkeeps : sec.removeDuplicates = false) :
    s.endTable (some c)
      = (({ s with held := none, foldCount := 0 } : Session).leave, s.held.toList) := by
  have hemit := emit?_of_keeps (s := { s with held := none, foldCount := 0 }) hcur hkeeps s.held
  simp only [endTable, Option.isSome_some, if_true, release, hemit]

/-- A blank line ends a table and is used up; a line with an end keyword is handed on. -/
theorem visit_of_closing (hst : s.stage = .table) (hcur : s.current = some sec)
    (hkeeps : sec.removeDuplicates = false)
    (hends : Text.isBlankText line = true ∨ sec.endsAt line = true) :
    s.visit (some c) sec line = (({ s with held := none, foldCount := 0 } : Session).leave,
      .ok ⟨s.held.toList, Text.isBlankText line⟩) := by
  simp only [visit, hst, endTableAt, endTable_of_keeps hcur hkeeps]
  cases hblank : Text.isBlankText line with
  | true => rfl
  | false =>
      have hend : sec.endsAt line = true := hends.resolve_left (by simp [hblank])
      simp only [hend, Bool.false_eq_true, if_false, if_true]

end BankStatement.Session
