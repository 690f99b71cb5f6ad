import BankStatement.Session.Fold

/-!
# Feeding lines to a session

`Session.feed` takes a session one line further. A line belongs to the current section, or ends it
and is passed on to the next one: a blank line ends most sections and is used up, a line with an end
keyword is handed on. So one line may pass through several sections, each of them once, and the
recursion is on the sections still to be entered.

Main statement: `feed_of_exhausted`, a session that has left all sections changes no more.

Each kind of section has its own way to look at a line, and all of them answer in one form: what is
given out, and whether the line is used up (`Visit`). So feeding is a single recursion, and what it
does in each section can be changed without it.
-/

namespace BankStatement.Session

/-- What became of a line in a section: the movements given out, and whether the line is used up. -/
structure Visit where
  movements : List Movement
  usedUp : Bool
  deriving DecidableEq, Repr

/-- Stops reading a table: what is held is given out. -/
def endTable (policy : Option Continuation) (s : Session) : Session × List Movement :=
  let (s, footer) := if policy.isSome then s.release else (s, none)
  let (s, movements) := s.emit? footer
  (s.leave, movements)

/-- Stops reading a table and uses the line up or hands it on. -/
def endTableAt (policy : Option Continuation) (usedUp : Bool) (s : Session) : Session × Visit :=
  let (s, movements) := s.endTable policy
  (s, ⟨movements, usedUp⟩)

def tableLine (policy : Option Continuation) (sec : Section) (line : Text) (s : Session) :
    Step Session (Option Movement) :=
  match policy with
  | some c => s.foldLine c sec line
  | none =>
    let (header, result) := sec.readRecord s.template s.today true line s.header
    ({ s with header }, result)

/-- The movement of a line of a dynamic table; lines that cannot be read hold none. -/
def dynamicLine (policy : Option Continuation) (sec : Section) (line : Text) (s : Session) :
    Step Session (Option Movement) :=
  if sec.recordLength ≠ 0 ∧ Int.ofNat line.length ≠ sec.recordLength then (s, .ok none)
  else
    match sec.readRecord s.template s.today policy.isNone line s.header with
    | (header, .error fault) =>
      ({ s with header }, if fault.isStatementFault then .ok none else .error fault)
    | (header, .ok none) => ({ s with header }, .ok none)
    | (header, .ok (some m)) => ({ s with header }, .ok (if m.isError then none else some m))

/-- Reads a line in the current section. -/
def visit (policy : Option Continuation) (sec : Section) (line : Text) (s : Session) :
    Step Session Visit :=
  let isBlank := Text.isBlankText line
  match s.stage with
  | .between => (s, .ok ⟨[], false⟩)
  | .ignoring =>
    if isBlank then (s.leave, .ok ⟨[], true⟩)
    else if sec.endsAt line then (s.leave, .ok ⟨[], false⟩)
    else (s, .ok ⟨[], true⟩)
  | .keyValue =>
    if isBlank || sec.endsAt line then (s.leave, .ok ⟨[], true⟩)
    else
      match sec.readKeyValue s.template line s.header with
      | (header, .ok ()) => ({ s with header }, .ok ⟨[], true⟩)
      | (header, .error fault) => ({ s with header }, .error fault)
  | .tableHeader => ({ s with stage := .table }, .ok ⟨[], true⟩)
  | .table =>
    if isBlank then
      let (s, v) := s.endTableAt policy true
      (s, .ok v)
    else if sec.endsAt line then
      let (s, v) := s.endTableAt policy false
      (s, .ok v)
    else
      match s.tableLine policy sec line with
      | (s, .error fault) => (s, .error fault)
      | (s, .ok none) => (s, .ok ⟨[], true⟩)
      | (s, .ok (some m)) =>
        if m.isError then
          let (s, v) := s.endTableAt policy false
          (s, .ok v)
        else
          let (s, movements) := s.emit m
          (s, .ok ⟨movements, true⟩)
  | .dynamicTable =>
    if sec.endsAt line then
      let (s, v) := s.endTableAt policy false
      (s, .ok v)
    else
      match s.dynamicLine policy sec line with
      | (s, .error fault) => (s, .error fault)
      | (s, .ok m) =>
        let (s, movements) := s.emit? m
        (s, .ok ⟨movements, true⟩)

/-- Passes a line on through the sections still to be entered until one uses it up. `given` are the
movements the line has brought so far. -/
def passOn (policy : Option Continuation) (line : Text) :
    List Section → List Movement → Session → Step Session (List Movement)
  | [], given, s => (s.exhaust, .ok given)
  | sec :: rest, given, s =>
    match (s.enter sec).visit policy sec line with
    | (s, .error fault) => (s, .error fault)
    | (s, .ok v) =>
      if v.usedUp then (s, .ok (given ++ v.movements))
      else passOn policy line rest (given ++ v.movements) s

def trimLineEnd (line : Text) : Text := Text.dropRightWhile (fun c => c == '\r' || c == '\n') line

/-- Reads a line from where the session stands: in the current section and, once that hands it on,
in the sections still to be entered. -/
def readLine (policy : Option Continuation) (line : Text) (s : Session) :
    Step Session (List Movement) :=
  match s.stage, s.current with
  | .between, _ => passOn policy line s.upcoming [] s
  | _, none => (s, .ok [])
  | _, some sec =>
    match s.visit policy sec line with
    | (s, .error fault) => (s, .error fault)
    | (s, .ok v) =>
      if v.usedUp then (s, .ok v.movements) else passOn policy line s.upcoming v.movements s

/-- Takes the session one line further and gives out the movements that are finished by it. -/
def feed (policy : Option Continuation) (line : Text) (s : Session) :
    Step Session (List Movement) :=
  readLine policy (trimLineEnd line) { s with lineNo := s.lineNo + 1 }

/-- Ends the session at the end of the statement: what a table still holds is given out. -/
def finish (policy : Option Continuation) (s : Session) : Session × List Movement :=
  match s.stage with
  | .table => s.endTable policy
  | .dynamicTable => s.endTable policy
  | _ => (s.leave, [])

theorem feed_of_exhausted (policy : Option Continuation) (line : Text) {s : Session}
    (stage : s.stage = .ignoring) (current : s.current = none) :
    s.feed policy line = ({ s with lineNo := s.lineNo + 1 }, .ok []) := by
  simp [feed, readLine, stage, current]

end BankStatement.Session
