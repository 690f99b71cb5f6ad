import BankStatement.Session.Record

/-!
# Continuation lines

Some statements spread a movement over several lines: a first line with date and amount, then lines
with the counterparty or the purpose. Under a continuation policy the session holds a movement back
and folds the additional rules of later lines onto it, until a line begins a new movement, a rule
has continued it often enough, or the section ends.

The count of matches is over all additional rules of the table and begins anew with every movement,
so the bound of one rule is met by the matches of another as well. Where the count reaches the bound
of the rule that has just matched, the movement is given out.
-/

namespace BankStatement

/-- Whether a rule has continued a movement as often as it may. -/
def Rule.isSpent (r : Rule) (foldCount : Nat) : Bool :=
  match r.maxOccurrence with
  | none => false
  | some most => most != 0 && decide (most ≤ Int.ofNat foldCount)

namespace Session

/-- Tries the additional rules of a line on the held movement. A rule that has continued it as often
as it may lets it go, and the rest of the line is not looked at. -/
def foldRules (line : Text) : List Rule → Session → Step Session (Option Movement)
  | [], s => (s, .ok none)
  | r :: rules, s =>
    match r.apply s.template line .always ⟨s.header, s.held⟩ with
    | (target, .error fault) =>
      ({ s with header := target.header, held := target.movement }, .error fault)
    | (target, .ok false) =>
      foldRules line rules { s with header := target.header, held := target.movement }
    | (target, .ok true) =>
      let s := { s with
        header := target.header
        held := target.movement
        foldCount := s.foldCount + 1 }
      if r.isSpent s.foldCount then
        let (s, finished) := s.release
        (s, .ok finished)
      else foldRules line rules s

/-- Reads one table line under a continuation policy. The result is a finished movement, or nothing
while the movement is still open. -/
def foldLine (c : Continuation) (sec : Section) (line : Text) (s : Session) :
    Step Session (Option Movement) :=
  match sec.readRecord s.template s.today false line s.header with
  | (header, .error fault) => ({ s with header }, .error fault)
  | (header, .ok candidate) =>
    let s := { s with header }
    match s.held with
    | none =>
      match candidate with
      | none => (s, .ok none)
      | some m =>
        if m.isError || m.bookingDate.isNone then (s, .ok (some m)) else (s.hold m, .ok none)
    | some _ =>
      match candidate with
      | some m =>
        if m.isError then (s, .ok (some m))
        else if c.isComplete (some m) then
          let (s, finished) := s.release
          (s.hold m, .ok finished)
        else if sec.ignores line then (s, .ok none)
        else foldRules line (sec.rulesOf .additional) s
      | none =>
        if sec.ignores line then (s, .ok none)
        else foldRules line (sec.rulesOf .additional) s

end Session

end BankStatement
