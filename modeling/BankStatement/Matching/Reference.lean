import BankStatement.Draft

/-!
# Reference data

What entries are matched against: contacts, the own accounts, savings plans, securities, and the
movements that are already in the books.

Reference data are kept as they come. They are prepared for matching by `Classifier.ofReference`,
which drops what is inactive and sorts what has an order. Nothing is asked of them here: two
contacts may have one name or even one id, and an IBAN may be missing or occur twice. Statements
about matching that need more say so.
-/

namespace BankStatement

inductive ContactKind where
  /-- The account holder. -/
  | self
  | bank
  | person
  | organization
  | other
  deriving DecidableEq, Repr

/-- Somebody on the other side of a movement. -/
structure Contact where
  id : EntityId
  name : Text
  kind : ContactKind := .organization
  /-- Patterns with `*` and `?` for further names. -/
  aliases : List Text := []
  /-- A payment service: the other side is found in the subject instead. -/
  isIntermediary : Bool := false
  deriving DecidableEq, Repr

structure Account where
  id : EntityId
  name : Text
  iban : Option Text := none
  /-- The contact of the bank that keeps the account. -/
  bankContactId : Option EntityId := none
  /-- Whether transfers to savings plans are booked here. -/
  expectsSavingsPlans : Bool := false
  deriving DecidableEq, Repr

structure SavingsPlan where
  id : EntityId
  name : Text
  contractNumber : Option Text := none
  isActive : Bool := true
  deriving DecidableEq, Repr

structure Security where
  id : EntityId
  name : Text
  identifier : Option Text := none
  isActive : Bool := true
  deriving DecidableEq, Repr

/-- A movement that is already in the books: a posting of an account, or an entry of an earlier
draft without one. -/
structure PriorMovement where
  bookingDate : Date
  amount : Decimal
  subject : Text := []
  accountId : Option EntityId := none
  deriving DecidableEq, Repr

end BankStatement
