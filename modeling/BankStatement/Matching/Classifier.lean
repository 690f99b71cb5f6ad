import BankStatement.Fault
import BankStatement.Matching.Duplicates
import BankStatement.Matching.Glob
import BankStatement.Matching.Normal

/-!
# Classification

For every entry of a draft the classifier marks a duplicate of a movement in the books, finds the
contact on the other side, links a savings plan for transfers to oneself, and links a security for
postings of the bank. Announced entries are only checked for duplicates.

Every stage is a function from an entry to an entry, together with what it found.

The order of the stages counts. The contact is found first, since savings plans are looked for in
transfers to oneself and securities in postings of nobody or the bank. A stage that finds several
may set the status back to one that asks for a check, over what the contact has decided.
-/

namespace BankStatement

/-- Reference data prepared for matching. -/
structure Classifier where
  contacts : List Contact
  /-- The contact of the account holder. -/
  selfContact : Contact
  accounts : List Account
  /-- Active savings plans. -/
  savingsPlans : List SavingsPlan
  /-- Active securities, in the order of their names. -/
  securities : List Security
  priorMovements : List PriorMovement
  deriving Repr

namespace Classifier

/-- Prepares reference data; one contact has to be the account holder. -/
def ofReference (contacts : List Contact) (accounts : List Account)
    (savingsPlans : List SavingsPlan) (securities : List Security)
    (priorMovements : List PriorMovement) : Except Fault Classifier :=
  match contacts.find? fun c => c.kind == .self with
  | none => .error .noSelfContact
  | some selfContact =>
    .ok {
      contacts, selfContact, accounts, priorMovements
      savingsPlans := savingsPlans.filter (·.isActive)
      securities := (securities.filter (·.isActive)).mergeSort fun a b => Text.le a.name b.name }

def contact? (k : Classifier) (id : EntityId) : Option Contact :=
  k.contacts.find? fun c => c.id == id

def account? (k : Classifier) (id : Option EntityId) : Option Account :=
  id.bind fun id => k.accounts.find? fun a => a.id == id

/-! ## The account of a draft -/

/-- The account a draft belongs to: the one with the IBAN that the draft names, else the only one
whose IBAN ends with what it names, else, when it names nothing, the only account. -/
def accountNamed? (k : Classifier) (name : Option Text) : Option Account :=
  let token := Matching.normalIban name
  let withIban := k.accounts.filter fun a => Text.isFilled a.iban
  if token.isEmpty then
    match k.accounts with
    | [only] => some only
    | _ => none
  else
    match withIban.find? fun a => Matching.normalIban a.iban == token with
    | some exact => some exact
    | none =>
      match withIban.filter fun a => token.isSuffixOf (Matching.normalIban a.iban) with
      | [similar] => some similar
      | _ => none

/-- Finds the account of a draft that has none. -/
def detectAccount (k : Classifier) (d : Draft) : Draft :=
  match d.detectedAccountId with
  | some _ => d
  | none => { d with detectedAccountId := (k.accountNamed? d.accountName).map (·.id) }

/-! ## Contacts -/

/-- The normal names of the contacts that have one. -/
def namedContacts (k : Classifier) : List (Text × Contact) :=
  (k.contacts.filter fun c => !Text.isBlankText c.name).map fun c =>
    (Matching.normalName (some c.name), c)

/-- The aliases of all contacts, longer ones first, else in the order of contacts and aliases. -/
def aliases (k : Classifier) : List (Text × Contact) :=
  (k.contacts.flatMap fun c => (c.aliases.filterMap Text.strip?).map fun a => (a, c)).mergeSort
    fun a b => decide (b.1.length ≤ a.1.length)

def aliasOf? (k : Classifier) (t : Text) : Option Contact :=
  (k.aliases.find? fun (a, _) => Matching.globMatches a t).map (·.2)

/-- The contact a normalized text names: by its whole name, by a name within the text, by an alias
of the text, by an alias of the text without its blanks. -/
def matchContact (k : Classifier) (search : Text) : Option Contact :=
  ((k.namedContacts.find? fun (name, _) => name == search).map (·.2))
    <|> ((k.namedContacts.find? fun (name, _) => Text.occursIn name search).map (·.2))
    <|> k.aliasOf? search
    <|> k.aliasOf? (Matching.dropBlanks search)

/-- Looks a contact up for an entry and links it. An entry without a counterparty belongs to the
bank, if the bank is known; a payment service is linked, but not accounted for. -/
def resolve (k : Classifier) (e : Entry) (search : Text) (bank : Option EntityId) :
    Entry × Option Contact :=
  match Text.isBlankText (e.counterparty.getD []), bank with
  | true, some bankId => (e.markAccounted bankId, k.contact? bankId)
  | _, _ =>
    match k.matchContact search with
    | none => (e, none)
    | some c =>
      if c.isIntermediary then (e.linkContact c.id, some c) else (e.markAccounted c.id, some c)

/-- What a contact means for the own accounts: a transfer to another of the own banks is one to
oneself, and a movement to oneself costs nothing. -/
def settleContact (k : Classifier) (e : Entry) (c : Contact) (bank : Option EntityId) : Entry :=
  if c.kind = .bank ∧ bank.isSome ∧ some c.id ≠ bank then
    (e.markCostNeutral true).markAccounted k.selfContact.id
  else if c.id = k.selfContact.id then e.markCostNeutral true
  else e

/-- Finds the contact of an entry; behind a payment service, the contact its subject names. -/
def assignContact (k : Classifier) (e : Entry) (bank : Option EntityId) : Entry × Option Contact :=
  match k.resolve e (Matching.normalName e.counterparty) bank with
  | (e, none) => (e, none)
  | (e, some first) =>
    let (e, c) :=
      if first.isIntermediary then
        let (e, second) := k.resolve e (Matching.normalName e.subject) bank
        (e, second.getD first)
      else (e, first)
    if c.isIntermediary then (e, some c) else (k.settleContact e c bank, some c)

/-! ## Savings plans -/

/-- Whether a subject names a savings plan, by its name or its contract number. -/
def planMatches (subject : Option Text) (p : SavingsPlan) : Bool :=
  let name := Matching.dropBlanks (Matching.normalName (some p.name))
  let contract := Matching.normalContract p.contractNumber
  (!name.isEmpty && Text.occursIn name (Matching.dropBlanks (Matching.normalName subject))) ||
    (!contract.isEmpty && Text.occursIn contract (Matching.normalContract subject))

/-- Links the first savings plan the subject of a transfer to oneself names; several have to be
checked. -/
def assignSavingsPlan (k : Classifier) (e : Entry) : Entry × Option SavingsPlan :=
  if e.contactId ≠ some k.selfContact.id then (e, none)
  else
    match k.savingsPlans.filter (planMatches e.subject) with
    | [] => (e, none)
    | [p] => (e.linkSavingsPlan (some p.id), some p)
    | p :: _ => ((e.linkSavingsPlan (some p.id)).markNeedsCheck, some p)

/-! ## Securities -/

/-- Whether a name or identifier that is not empty in normal form stands in a normal text. -/
def probe (value : Option Text) (haystack : Text) : Bool :=
  let needle := Matching.normalSecurity (value.getD [])
  !needle.isEmpty && Text.occursIn needle haystack

/-- The texts of an entry in which a security can be named, in normal form. -/
def securityText (e : Entry) : Text :=
  Matching.normalSecurity (Text.joinWith [' ']
    [e.subject.getD [], e.postingDescription.getD [], e.counterparty.getD []])

def securityMatches (haystack : Text) (s : Security) : Bool :=
  probe s.identifier haystack || probe (some s.name) haystack

/-- Links the first security an entry of the bank names; several have to be checked, none takes the
details of the posting away. -/
def assignSecurity (k : Classifier) (e : Entry) (bank : Option EntityId) :
    Entry × Option Security :=
  if e.contactId.isSome && e.contactId != bank then (e, none)
  else if k.securities.isEmpty then (e, none)
  else
    match k.securities.filter (securityMatches (securityText e)) with
    | [] => (e.linkSecurity none, none)
    | [s] => (e.linkSecurity (some s.id), some s)
    | s :: _ => ((e.linkSecurity (some s.id)).markNeedsCheck, some s)

/-! ## Entries and drafts -/

/-- Classifies one entry. Decisions are taken back first, except that of a duplicate. -/
def classifyEntry (k : Classifier) (w : DuplicateWindow) (account : Option Account) (e : Entry) :
    Entry :=
  let bank := account.bind (·.bankContactId)
  let e := if e.status = .alreadyBooked then e else e.resetOpen
  if w.contains e then e.markAlreadyBooked
  else if e.isAnnounced then e
  else
    let e := (k.assignContact e bank).1
    let e :=
      if (account.map (·.expectsSavingsPlans)).getD false then (k.assignSavingsPlan e).1 else e
    (k.assignSecurity e bank).1

/-- Classifies the entries of a draft, or only those of one id. Duplicates are looked for with the
window of the whole draft in any case. -/
def classify (k : Classifier) (only : Option EntityId) (d : Draft) : Draft :=
  let d := k.detectAccount d
  let account := k.account? d.detectedAccountId
  let w := DuplicateWindow.forEntries k.priorMovements d.entries d.detectedAccountId
  { d with
    entries := d.entries.map fun e =>
      if only.all (· == e.id) then k.classifyEntry w account e else e }

end Classifier

end BankStatement
