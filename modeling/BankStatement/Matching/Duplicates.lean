import BankStatement.Matching.Reference
import BankStatement.Text.Case

/-!
# Duplicates

A draft entry duplicates a movement in the books when date, amount and subject agree, the subject up
to case. Only movements of the draft's account or of no account count, and only from the first day
of the draft on; the window is built once for a draft.

Keys are compared by equality, so they hold what makes two amounts or two subjects alike: the
canonical number and the folded text. Prior movements with equal keys are kept once. An entry
without a date is no duplicate of anything, and a draft without dated entries has an empty window.
-/

namespace BankStatement

/-- What makes an entry and a prior movement duplicates. -/
structure DuplicateKey where
  date : Date
  amount : Decimal
  subject : Text
  deriving DecidableEq, Repr

def DuplicateKey.of (date : Date) (amount : Decimal) (subject : Text) : DuplicateKey where
  date := date
  amount := amount.canonical
  subject := Text.fold subject

/-- The prior movements a draft is checked against. -/
structure DuplicateWindow where
  since : Option Date
  keys : List DuplicateKey
  deriving DecidableEq, Repr

namespace DuplicateWindow

/-- Whether a prior movement counts for an account. -/
def concerns (account : Option EntityId) (p : PriorMovement) : Bool :=
  match p.accountId with
  | none => true
  | some id => account == some id

/-- The window from a day on; without a day it is empty. -/
def build (prior : List PriorMovement) (since : Option Date) (account : Option EntityId) :
    DuplicateWindow where
  since := since
  keys :=
    match since with
    | none => []
    | some day =>
      ((prior.filter fun p => !p.bookingDate.isBefore day && concerns account p).map fun p =>
        DuplicateKey.of p.bookingDate p.amount p.subject).eraseDups

/-- The window from the first day of some entries on. -/
def forEntries (prior : List PriorMovement) (entries : List Entry) (account : Option EntityId) :
    DuplicateWindow :=
  build prior (Date.earliest? (entries.filterMap (·.bookingDate))) account

def size (w : DuplicateWindow) : Nat := w.keys.length

/-- Whether an entry duplicates a movement of the window; one without a date never does. -/
def contains (w : DuplicateWindow) (e : Entry) : Bool :=
  match e.bookingDate with
  | none => false
  | some date => w.keys.contains (DuplicateKey.of date e.amount (e.subject.getD []))

end DuplicateWindow

end BankStatement
