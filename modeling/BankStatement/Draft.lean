import BankStatement.Movement

/-!
# Drafts

A draft is a statement on its way into the books: one entry per movement, with the links that
classification finds for it. An entry's status says how far it has come. Marking and linking change
only the fields they name, except that taking a security away also takes away the details of the
securities posting.

Status, links and marks of an entry are written by the operations here and by nothing else, so what
classification can do to an entry is what they allow. The other fields come from the movement and
stay as they are, but for the details of the security.
-/

namespace BankStatement

/-- The name of a contact, account, plan, security or entry. -/
abbrev EntityId := Text

inductive EntryStatus where
  /-- Nothing has been decided. -/
  | pending
  /-- Not booked by the bank yet. -/
  | announced
  /-- A contact accounts for it. -/
  | accounted
  /-- Somebody has to look at it. -/
  | needsCheck
  /-- It duplicates a movement in the books. -/
  | alreadyBooked
  deriving DecidableEq, Repr

def EntryStatus.label : EntryStatus → Text
  | .pending => "open".toList
  | .announced => "announced".toList
  | .accounted => "accounted".toList
  | .needsCheck => "needs_check".toList
  | .alreadyBooked => "already_booked".toList

structure Entry where
  id : EntityId
  bookingDate : Option Date := none
  amount : Decimal := Decimal.zero
  subject : Option Text := some []
  counterparty : Option Text := none
  postingDescription : Option Text := none
  valutaDate : Option Date := none
  currencyCode : Text := "EUR".toList
  isAnnounced : Bool := false
  status : EntryStatus := .pending
  contactId : Option EntityId := none
  savingsPlanId : Option EntityId := none
  securityId : Option EntityId := none
  securityAction : Option SecurityAction := none
  securityQuantity : Option Decimal := none
  securityFee : Option Decimal := none
  securityTax : Option Decimal := none
  isCostNeutral : Bool := false
  deriving DecidableEq, Repr

namespace Entry

/-- The status of an entry that nothing has been decided about. -/
def initialStatus (isAnnounced : Bool) : EntryStatus := if isAnnounced then .announced else .pending

/-- The entry of a movement; a preview is announced. -/
def ofMovement (id : EntityId) (m : Movement) : Entry where
  id := id
  bookingDate := m.bookingDate
  amount := m.amount
  subject := some (m.subject.getD [])
  counterparty := m.counterparty.bind Text.strip?
  postingDescription := m.postingDescription.bind Text.strip?
  valutaDate := m.valutaDate
  currencyCode :=
    match m.currencyCode with
    | some (c :: code) => c :: code
    | _ => "EUR".toList
  isAnnounced := m.isPreview
  status := initialStatus m.isPreview
  securityAction := m.securityAction
  securityQuantity := m.quantity
  securityFee := m.feeAmount
  securityTax := m.taxAmount

/-- Links a contact and accounts for the entry. -/
def markAccounted (e : Entry) (contact : EntityId) : Entry :=
  { e with contactId := some contact, status := .accounted }

/-- Links a contact that is still to be confirmed. -/
def linkContact (e : Entry) (contact : EntityId) : Entry := { e with contactId := some contact }

def markAlreadyBooked (e : Entry) : Entry := { e with status := .alreadyBooked }

def markNeedsCheck (e : Entry) : Entry := { e with status := .needsCheck }

/-- Says whether the movement stays within the own accounts. -/
def markCostNeutral (e : Entry) (isCostNeutral : Bool) : Entry := { e with isCostNeutral }

/-- Takes all decisions back; links stay. -/
def resetOpen (e : Entry) : Entry :=
  { e with status := initialStatus e.isAnnounced, isCostNeutral := false }

def linkSavingsPlan (e : Entry) (plan : Option EntityId) : Entry := { e with savingsPlanId := plan }

/-- Links a security. Without one, the details of the securities posting go as well. -/
def linkSecurity (e : Entry) : Option EntityId → Entry
  | some security => { e with securityId := some security }
  | none =>
    { e with
      securityId := none
      securityAction := none
      securityQuantity := none
      securityFee := none
      securityTax := none }

end Entry

structure Draft where
  originalFileName : Text
  accountName : Option Text := none
  description : Text := []
  detectedAccountId : Option EntityId := none
  entries : List Entry := []
  deriving DecidableEq, Repr

namespace Draft

/-- The account a header names: its IBAN, else its number, unless both are empty. -/
def accountNameOf (h : Header) : Option Text :=
  match h.iban, h.accountNumber with
  | some (c :: iban), _ => some (c :: iban)
  | _, c :: number => some (c :: number)
  | _, [] => none

/-- The draft of a statement; `newId` names its entries by position. -/
def ofStatement (newId : Nat → EntityId) (fileName : Text) (s : Statement) : Draft where
  originalFileName := fileName
  accountName := accountNameOf s.header
  description := s.header.description
  entries := s.movements.zipIdx.map fun (m, i) => Entry.ofMovement (newId i) m

end Draft

end BankStatement
