import BankStatement.Reading.Line

/-!
# Reading sessions

A session is one attempt to read a statement with one template, line by line. It knows which
sections of the template it has entered, what it does with the lines of the current one, the header
so far, and the movement that is held back because lines may still continue it.

A session with a fault can be used on: it keeps what it had assigned before the fault.

The state is a record of plain values, and every step is a function from one to the next. What a
template or a policy fixes is not part of it, except for the template itself and the day of reading,
which never change.
-/

namespace BankStatement

/-- What a session does with the next line. -/
inductive Stage where
  /-- It enters the next section. -/
  | between
  /-- It passes the line over. -/
  | ignoring
  /-- It looks for labels with values. -/
  | keyValue
  /-- It passes over the column headings of a table. -/
  | tableHeader
  /-- It reads a movement from every line. -/
  | table
  /-- It reads movements from the lines that hold one. -/
  | dynamicTable
  deriving DecidableEq, Repr

/-- What makes two movements of a section duplicates: dates, amount by value, and texts. -/
structure MovementKey where
  bookingDate : Option Date
  valutaDate : Option Date
  amount : Decimal
  subject : Option Text
  counterparty : Option Text
  postingDescription : Option Text
  deriving DecidableEq, Repr

def Movement.key (m : Movement) : MovementKey where
  bookingDate := m.bookingDate
  valutaDate := m.valutaDate
  amount := m.amount.canonical
  subject := m.subject
  counterparty := m.counterparty
  postingDescription := m.postingDescription

/-- The state of one attempt to read a statement. -/
structure Session where
  template : Template
  /-- The reference date for previews. -/
  today : Date
  header : Header := {}
  /-- How many sections have been entered, the end of the template counting as one more. -/
  entered : Nat := 0
  /-- The section entered last. -/
  current : Option Section := none
  stage : Stage := .between
  /-- All sections have been left. -/
  exhausted : Bool := false
  /-- The movement that further lines may continue. -/
  held : Option Movement := none
  /-- How many matches of additional rules have continued the held movement. -/
  foldCount : Nat := 0
  /-- The keys of the movements given out by the current section, if it drops duplicates. -/
  seen : List MovementKey := []
  lineNo : Nat := 0
  deriving Repr

namespace Session

/-- The stage in which the lines of a section are read first. -/
def firstStage (s : Section) : Stage :=
  match s.kind with
  | .ignore => .ignoring
  | .keyValue => .keyValue
  | .table => if s.containsHeader then .tableHeader else .table
  | .dynamicTable => .dynamicTable

def upcoming (s : Session) : List Section := s.template.sections.drop s.entered

def enter (s : Session) (sec : Section) : Session :=
  { s with
    entered := s.entered + 1
    current := some sec
    stage := firstStage sec
    seen := [] }

/-- Passes the end of the template; from here on every line is ignored. -/
def exhaust (s : Session) : Session :=
  { s with
    entered := s.entered + 1
    current := none
    stage := .ignoring
    exhausted := true
    seen := [] }

def leave (s : Session) : Session := { s with stage := .between }

def release (s : Session) : Session × Option Movement :=
  ({ s with held := none, foldCount := 0 }, s.held)

/-- Holds a movement that further lines may continue. -/
def hold (s : Session) (m : Movement) : Session := { s with held := some m, foldCount := 0 }

/-- Gives out a movement, unless the section drops duplicates and has given out its like. -/
def emit (s : Session) (m : Movement) : Session × List Movement :=
  if (s.current.map (·.removeDuplicates)).getD false then
    if s.seen.contains m.key then (s, []) else ({ s with seen := m.key :: s.seen }, [m])
  else (s, [m])

def emit? (s : Session) : Option Movement → Session × List Movement
  | some m => s.emit m
  | none => (s, [])

end Session

end BankStatement
