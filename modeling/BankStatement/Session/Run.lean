import BankStatement.Session.Feed

/-!
# Reading a whole statement

A statement is read with one template by feeding all its lines to a fresh session. With several
templates, the first one that yields a movement is the statement's; a template with a statement
fault is passed over like one that finds nothing.

Which movements belong to a statement is the same whether its lines are fed at once or one at a
time, since feeding has no other state than the session. What is still held at the end is given out
by `Session.finish`.

An empty statement is no result. Templates of one bank are tried on the same lines in the order of
the catalogue, and one that is not made for a layout mostly finds no movement in it.
-/

namespace BankStatement

namespace Session

def start (template : Template) (today : Date) : Session := { template, today }

/-- Feeds lines one after the other, up to the first fault. -/
def feedAll (policy : Option Continuation) :
    List Text → Session → Except Fault (Session × List Movement)
  | [], s => .ok (s, [])
  | line :: lines, s =>
    match s.feed policy line with
    | (_, .error fault) => .error fault
    | (s, .ok movements) =>
      match feedAll policy lines s with
      | .error fault => .error fault
      | .ok (s, others) => .ok (s, movements ++ others)

end Session

namespace Template

def run (template : Template) (policy : Option Continuation) (today : Date) (lines : List Text) :
    Except Fault Statement :=
  match (Session.start template today).feedAll policy lines with
  | .error fault => .error fault
  | .ok (s, movements) =>
    let (s, last) := s.finish policy
    .ok ⟨s.header, movements ++ last⟩

/-- Reads the lines of a statement with the first of some templates that yields a movement. -/
def runFirst (policy : Option Continuation) (today : Date) (lines : List Text) :
    List Template → Except Fault (Option Statement)
  | [] => .ok none
  | template :: templates =>
    match template.run policy today lines with
    | .error fault =>
      if fault.isStatementFault then runFirst policy today lines templates else .error fault
    | .ok statement =>
      if statement.movements.isEmpty then runFirst policy today lines templates
      else .ok (some statement)

end Template

end BankStatement
