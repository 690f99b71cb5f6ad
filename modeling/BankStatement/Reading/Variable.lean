import BankStatement.Movement
import BankStatement.Reading.Notation

/-!
# Variables

A variable is a name by which a template says where a value goes: into the header or into the
movement that is being read. Names that are no variable are ignored, and so are the variables of a
movement where there is none.

Assigning a value is all or nothing: `Target.assign` returns the changed target, or a fault and no
target at all.

A header keeps the texts it has where a key asks for that, and takes new ones elsewhere (`Mode`).
The counterparty of a movement is the one variable that is added to and not replaced: a name on two
lines is put together with a blank between its parts.
-/

namespace BankStatement

inductive HeaderVariable where
  | accountNumber
  | iban
  | bankCode
  | accountHolder
  | periodStart
  | periodEnd
  | description
  deriving DecidableEq, Repr

inductive MovementVariable where
  | bookingDate
  | valutaDate
  | counterparty
  | postingDescription
  | subject
  | currencyCode
  | amount
  | quantity
  deriving DecidableEq, Repr

def HeaderVariable.ofName? (name : Text) : Option HeaderVariable :=
  [("BankAccountNo", .accountNumber), ("IBAN", .iban), ("BankCode", .bankCode),
    ("AccountHolder", .accountHolder), ("PeriodStart", .periodStart), ("PeriodEnd", .periodEnd),
    ("StatementDescription", HeaderVariable.description)].findSome? fun (known, v) =>
      if known.toList = name then some v else none

def MovementVariable.ofName? (name : Text) : Option MovementVariable :=
  [("PostingDate", .bookingDate), ("ValutaDate", .valutaDate), ("SourceName", .counterparty),
    ("PostingDescription", .postingDescription), ("Description", .subject),
    ("CurrencyCode", .currencyCode), ("Amount", .amount),
    ("Quantity", MovementVariable.quantity)].findSome? fun (known, v) =>
      if known.toList = name then some v else none

/-- What values are assigned to: the header, and the movement being read if there is one. -/
structure Target where
  header : Header
  movement : Option Movement
  deriving DecidableEq, Repr

/-- What becomes of an old value when a new one arrives: a full place keeps its value if the mode
says so. -/
def Mode.merge {α : Type} (mode : Mode) (isFull : Bool) (old new : α) : α :=
  if mode = .onlyWhenEmpty ∧ isFull then old else new

namespace Header

/-- Assigns a value to a header variable. Account numbers lose all their blanks, other texts the
white space around them. -/
def assign (template : Template) (h : Header) (v : HeaderVariable) (name value : Text)
    (mode : Mode) : Except Fault Header :=
  match v with
  | .accountNumber =>
    let number := Text.strip (Text.erase ' ' value)
    .ok { h with accountNumber := mode.merge (!h.accountNumber.isEmpty) h.accountNumber number }
  | .iban =>
    let iban := some (Text.strip (Text.erase ' ' value))
    .ok { h with iban := mode.merge (Text.isFilled h.iban) h.iban iban }
  | .bankCode =>
    let code := some (Text.strip value)
    .ok { h with bankCode := mode.merge (Text.isFilled h.bankCode) h.bankCode code }
  | .accountHolder =>
    let holder := some (Text.strip value)
    let old := h.accountHolder
    .ok { h with accountHolder := mode.merge (Text.isFilled old) old holder }
  | .description =>
    let text := Text.strip value
    .ok { h with description := mode.merge (!h.description.isEmpty) h.description text }
  | .periodStart => do
    let d ← template.readDate name value
    pure { h with periodStart := mode.merge h.periodStart.isSome h.periodStart (some d) }
  | .periodEnd => do
    let d ← template.readDate name value
    pure { h with periodEnd := mode.merge h.periodEnd.isSome h.periodEnd (some d) }

end Header

namespace Movement

/-- Assigns a value to a movement variable. The counterparty is special: it grows by every value,
whatever the mode, and is corrected as a whole each time. An amount is multiplied, and counts as
empty while it is zero. -/
def assign (template : Template) (m : Movement) (v : MovementVariable) (name value : Text)
    (mode : Mode) (multiplier : Int) : Except Fault Movement :=
  match v with
  | .bookingDate => do
    let d ← template.readDate name value
    pure { m with bookingDate := mode.merge m.bookingDate.isSome m.bookingDate (some d) }
  | .valutaDate => do
    let d ← template.readDate name value
    pure { m with valutaDate := mode.merge m.valutaDate.isSome m.valutaDate (some d) }
  | .counterparty => do
    let joined := Text.strip (m.counterparty.getD [] ++ ' ' :: Text.strip value)
    let corrected ← template.correct joined
    pure { m with counterparty := some corrected }
  | .postingDescription => do
    let t ← template.correct (Text.strip value)
    let old := m.postingDescription
    pure { m with postingDescription := mode.merge (Text.isFilled old) old (some t) }
  | .subject => do
    let t ← template.correct (Text.strip value)
    pure { m with subject := mode.merge (Text.isFilled m.subject) m.subject (some t) }
  | .currencyCode =>
    let code := some (Text.strip value)
    .ok { m with currencyCode := mode.merge (Text.isFilled m.currencyCode) m.currencyCode code }
  | .amount => do
    let read ← template.readAmount name value
    let amount := read * Decimal.ofInt multiplier
    pure { m with amount := mode.merge (!m.amount.isZero) m.amount amount }
  | .quantity => do
    let q ← template.readAmount name value
    pure { m with quantity := mode.merge m.quantity.isSome m.quantity (some q) }

end Movement

namespace Target

/-- Assigns a value to the variable of a name. The flag tells whether the name is a variable that
has a place here. -/
def assign (template : Template) (name value : Text) (mode : Mode) (multiplier : Int)
    (target : Target) : Except Fault (Bool × Target) :=
  match HeaderVariable.ofName? name with
  | some v => do
    let header ← target.header.assign template v name value mode
    pure (true, { target with header })
  | none =>
    match target.movement, MovementVariable.ofName? name with
    | some m, some v => do
      let m ← m.assign template v name value mode multiplier
      pure (true, { target with movement := some m })
    | _, _ => .ok (false, target)

/-- Assigns a value to a variable whose name comes from a document. A name that is no text is
ignored, unless it is a list or an object, which cannot be a name. -/
def assignNamed (template : Template) (name : Value) (value : Text) (mode : Mode)
    (multiplier : Int) (target : Target) : Except Fault (Bool × Target) :=
  match name with
  | .text n => target.assign template n value mode multiplier
  | .list _ => .error .wrongKind
  | .object _ => .error .wrongKind
  | _ => .ok (false, target)

end Target

end BankStatement
