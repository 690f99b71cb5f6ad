import BankStatement.Proofs.Session.OtherSections
import BankStatement.Session.Feed

/-!
# What rows do not look at

The rows of a table are read with the notation of the template, the reference date, the header, the
held movement and its count. Where the session stands in the template and in the statement, which
section it has entered and which keys it has seen are of no account to them: reading a row and
putting the session in the place of another one (`amid`) can be done in either order
(`tableLine_amid`, `dynamicLine_amid`). In particular they are as they were before the row
(`tableLine_stays`, `dynamicLine_stays`).

Two facts come out of one because `amid` takes both sessions as arguments. With the session itself
in the second place it is the identity, and the equation says that a row leaves the place alone;
with another session it says that the row does not look at it. `Proofs.Session.Sections` puts a
blank place there, `Proofs.Session.Repeats` a session that has seen no keys.
-/

namespace BankStatement.Session

/-- A session in the place of another one: what rows look at is its own, all else is of the other
one. -/
def amid (s place : Session) : Session :=
  { place with
    template := s.template.withSections place.template.sections
    today := s.today
    header := s.header
    held := s.held
    foldCount := s.foldCount }

theorem foldRules_amid (line : Text) (rules : List Rule) (s place : Session) :
    foldRules line rules (s.amid place)
      = ((foldRules line rules s).1.amid place, (foldRules line rules s).2) := by
  induction rules generalizing s with
  | nil => rfl
  | cons r rules ih =>
      have happly : r.apply (s.amid place).template line .always
            ⟨(s.amid place).header, (s.amid place).held⟩
          = r.apply s.template line .always ⟨s.header, s.held⟩ := Rule.apply_withSections ..
      unfold foldRules
      rw [happly]
      cases r.apply s.template line .always ⟨s.header, s.held⟩ with
      | mk target result =>
          cases result with
          | error => rfl
          | ok found =>
              cases found with
              | false => exact ih { s with header := target.header, held := target.movement }
              | true =>
                  simp only
                  have hcount : (s.amid place).foldCount = s.foldCount := rfl
                  rw [hcount]
                  split
                  · rfl
                  · exact ih { s with
                      header := target.header
                      held := target.movement
                      foldCount := s.foldCount + 1 }

theorem readRecord_amid (sec : Section) (withAdditional : Bool) (line : Text)
    (s place : Session) :
    sec.readRecord (s.amid place).template (s.amid place).today withAdditional line
        (s.amid place).header
      = sec.readRecord s.template s.today withAdditional line s.header :=
  sec.readRecord_withSections ..

theorem foldLine_amid (c : Continuation) (sec : Section) (line : Text) (s place : Session) :
    (s.amid place).foldLine c sec line
      = ((s.foldLine c sec line).1.amid place, (s.foldLine c sec line).2) := by
  have hheld : (s.amid place).held = s.held := rfl
  unfold foldLine
  rw [readRecord_amid]
  cases sec.readRecord s.template s.today false line s.header with
  | mk header result =>
      have hfold := foldRules_amid line (sec.rulesOf .additional) { s with header } place
      cases result with
      | error => rfl
      | ok candidate =>
          simp only [hheld]
          split
          · split
            · rfl
            · split <;> rfl
          · split
            · split
              · rfl
              · split
                · rfl
                · split
                  · rfl
                  · exact hfold
            · split
              · rfl
              · exact hfold

theorem tableLine_amid (policy : Option Continuation) (sec : Section) (line : Text)
    (s place : Session) :
    (s.amid place).tableLine policy sec line
      = ((s.tableLine policy sec line).1.amid place, (s.tableLine policy sec line).2) := by
  cases policy with
  | none =>
      unfold tableLine
      rw [readRecord_amid]
      rfl
  | some c => exact foldLine_amid c sec line s place

theorem dynamicLine_amid (policy : Option Continuation) (sec : Section) (line : Text)
    (s place : Session) :
    (s.amid place).dynamicLine policy sec line
      = ((s.dynamicLine policy sec line).1.amid place, (s.dynamicLine policy sec line).2) := by
  unfold dynamicLine
  rw [readRecord_amid]
  split
  · rfl
  · split <;> rfl

/-- A row leaves the session in its place. -/
theorem tableLine_stays (policy : Option Continuation) (sec : Section) (line : Text)
    (s : Session) : (s.tableLine policy sec line).1.amid s = (s.tableLine policy sec line).1 :=
  (congrArg Prod.fst (tableLine_amid policy sec line s s)).symm

theorem dynamicLine_stays (policy : Option Continuation) (sec : Section) (line : Text)
    (s : Session) : (s.dynamicLine policy sec line).1.amid s = (s.dynamicLine policy sec line).1 :=
  (congrArg Prod.fst (dynamicLine_amid policy sec line s s)).symm

end BankStatement.Session
