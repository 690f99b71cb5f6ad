import BankStatement.Session.Basic

/-!
# The movement of a line

How one line of a table becomes a movement. Fields and primary rules come first. Additional rules
are tried on the same line only after a primary match, and only when no policy takes care of
continuation lines.

A line that cannot be read is a fault; a section that stops on errors turns it into an error
movement. Either way the header keeps what was assigned before.

Whether a movement is a preview is decided once, when its line has been read. Continuation lines
that change the date later do not change the mark.
-/

namespace BankStatement

/-- How lines that continue a movement are recognized. -/
structure Continuation where
  /-- A movement is complete only with an amount, so a line with a date alone continues one. -/
  requireAmount : Bool := false
  deriving DecidableEq, Repr

/-- Whether a line's movement stands on its own and so begins a new one. -/
def Continuation.isComplete (c : Continuation) : Option Movement → Bool
  | none => false
  | some m => m.bookingDate.isSome && !(c.requireAmount && m.amount.isZero)

/-- Whether a movement's date is missing or still to come. -/
def Movement.isOutstanding (today : Date) (m : Movement) : Bool :=
  match m.bookingDate with
  | none => true
  | some d => today.isBefore d

/-- The movement read from a line: nothing if nothing was set, else marked as a preview when its
date is missing or still to come. -/
def Movement.finished? (today : Date) (m : Movement) : Option Movement :=
  if m.isSet then some { m with isPreview := m.isOutstanding today } else none

/-- The movement that stands for a line that could not be read. -/
def Movement.unreadable : Movement := { isError := true }

namespace Section

/-- Takes all values of a line: fields, primary rules, and after a primary match the additional
rules if `withAdditional` says so. -/
def takeValues (s : Section) (template : Template) (withAdditional : Bool) (line : Text)
    (target : Target) : Step Target Unit :=
  match s.walkFields template line target with
  | (target, .error fault) => (target, .error fault)
  | (target, .ok ()) =>
    match Rule.applyAll template line .always (s.rulesOf .primary) target with
    | (target, .error fault) => (target, .error fault)
    | (target, .ok matched) =>
      if matched && withAdditional then
        match Rule.applyAll template line .always (s.rulesOf .additional) target with
        | (target, .error fault) => (target, .error fault)
        | (target, .ok _) => (target, .ok ())
      else (target, .ok ())

/-- Reads one line of a section as a movement. -/
def readRecord (s : Section) (template : Template) (today : Date) (withAdditional : Bool)
    (line : Text) (header : Header) : Step Header (Option Movement) :=
  if s.ignores line then (header, .ok none)
  else
    match s.takeValues template withAdditional line ⟨header, some {}⟩ with
    | (target, .ok ()) => (target.header, .ok (target.movement.bind (·.finished? today)))
    | (target, .error fault) =>
      if fault.isStatementFault && s.stopOnError then
        (target.header, .ok (some Movement.unreadable))
      else (target.header, .error fault)

/-! ## Labels with values -/

/-- The value behind a key's label: the line starts with as many parts as the key's name has, these
end with the name, and something follows. -/
def keyValue? (separator name : Text) (parts : List Text) : Option Text :=
  let count := (Text.splitOn separator name).length
  let label := Text.joinWith separator (parts.take count)
  if name.isSuffixOf label && count < parts.length then
    some (Text.joinWith separator (parts.drop count))
  else none

/-- Assigns the values of the keys found in the parts of a line. -/
def readKeys (template : Template) (separator : Text) (parts : List Text) :
    List Key → Header → Step Header Unit
  | [], header => (header, .ok ())
  | key :: keys, header =>
    if key.target.isTruthy then
      match key.name with
      | .text name =>
        match keyValue? separator name parts with
        | none => readKeys template separator parts keys header
        | some value =>
          match Target.assignNamed template key.target value key.mode 1 ⟨header, none⟩ with
          | .error fault => (header, .error fault)
          | .ok (_, target) => readKeys template separator parts keys target.header
      | _ => (header, .error .notSupported)
    else readKeys template separator parts keys header

/-- Reads one line of a key-value section. -/
def readKeyValue (s : Section) (template : Template) (line : Text) (header : Header) :
    Step Header Unit :=
  match s.separator.asText with
  | .error fault => (header, .error fault)
  | .ok separator => readKeys template separator (Text.splitOn separator line) s.keys header

end Section

end BankStatement
