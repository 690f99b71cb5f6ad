import BankStatement.Proofs.Matching.Reclassification
import Mathlib.Data.List.Nodup

/-!
# The links of a draft

An entry carries a status, three links and a mark for what costs nothing, which eight operations
write on many paths. What they say together is one invariant (`Entry.WellLinked`): who accounts for
an entry is linked, what stays within the own accounts is linked to the account holder, savings
plans and securities are linked only where they belong, and what is announced or a duplicate has no
links.

A new entry has it, and what a review makes of a new entry has it (`wellLinked_classifyEntry`). More
than that never comes up: calls with the same reference data leave every entry new or reviewed once
(`classifiedBy_eq`), in whatever order they are made.

The invariant is not preserved by classification as such. An entry that is linked and then becomes a
duplicate keeps its links, since marking a duplicate writes two fields and removes no link. With one
classifier this does not happen, because what a window contains is the same in all calls, and so the
statement is about calls of one classifier; that the result of a review is not reviewed into
something else rests on `Proofs.Matching.Reclassification`.

The account holder must be told from the other contacts by the id and must not be a payment service
(`KnowsSelf`). Without that, what stays within the own accounts could be linked to somebody else
with the same id.
-/

namespace BankStatement

namespace Entry

structure Unlinked (e : Entry) : Prop where
  contact : e.contactId = none
  plan : e.savingsPlanId = none
  security : e.securityId = none

structure IsNew (e : Entry) : Prop where
  unlinked : e.Unlinked
  isCostNeutral : e.isCostNeutral = false
  status : e.status = initialStatus e.isAnnounced

/-- What status, links and marks of an entry say together, in a draft of an account. -/
structure WellLinked (k : Classifier) (account : Option Account) (e : Entry) : Prop where
  contact_of_accounted : e.status = .accounted → e.contactId.isSome = true
  isCostNeutral_iff : e.isCostNeutral = true ↔ e.contactId = some k.selfContact.id
  self_of_plan : e.savingsPlanId.isSome = true →
    e.contactId = some k.selfContact.id ∧ account.any (·.expectsSavingsPlans) = true
  bank_of_security : e.securityId.isSome = true →
    e.contactId = none ∨ e.contactId = account.bind (·.bankContactId)
  announced : e.isAnnounced = true →
    e.Unlinked ∧ (e.status = .announced ∨ e.status = .alreadyBooked)
  alreadyBooked : e.status = .alreadyBooked → e.Unlinked ∧ e.isCostNeutral = false
  pending : e.status = .pending → e.isAnnounced = false

variable {k : Classifier} {account : Option Account} {e : Entry}

theorem isNew_ofMovement (id : EntityId) (m : Movement) : (ofMovement id m).IsNew :=
  ⟨⟨rfl, rfl, rfl⟩, rfl, rfl⟩

theorem IsNew.reopened_eq (h : e.IsNew) : e.reopened = e := by
  obtain ⟨-, hcost, hstatus⟩ := h
  rw [reopened_of_not_booked (hstatus ▸ initialStatus_ne _), resetOpen, ← hcost, ← hstatus]

/-- An entry without links is well linked, whether it is a duplicate or undecided: all clauses but
those about its status speak of something that is linked. -/
theorem WellLinked.of_unlinked (h : e.Unlinked) (hcost : e.isCostNeutral = false)
    (hstatus : e.status = .alreadyBooked ∨ e.status = initialStatus e.isAnnounced) :
    e.WellLinked k account where
  contact_of_accounted haccounted := by
    cases hannounced : e.isAnnounced <;>
      simp [haccounted, hannounced, initialStatus] at hstatus
  isCostNeutral_iff := by simp [hcost, h.contact]
  self_of_plan hplan := by simp [h.plan] at hplan
  bank_of_security _ := .inl h.contact
  announced hannounced := ⟨h, by
    rw [hannounced] at hstatus
    exact hstatus.symm⟩
  alreadyBooked _ := ⟨h, hcost⟩
  pending hpending := by
    cases hannounced : e.isAnnounced with
    | false => rfl
    | true => simp [hpending, hannounced, initialStatus] at hstatus

theorem IsNew.wellLinked (h : e.IsNew) : e.WellLinked k account :=
  .of_unlinked h.unlinked h.isCostNeutral (.inr h.status)

end Entry

namespace Classifier

variable {k : Classifier} {account : Option Account} {bank : Option EntityId} {e : Entry}
  {w : DuplicateWindow} {c : Contact}

/-! ## The account holder -/

/-- The account holder is one of the contacts, told from the others by the id, and no payment
service. -/
structure KnowsSelf (k : Classifier) : Prop where
  mem : k.selfContact ∈ k.contacts
  eq_of_id : ∀ c ∈ k.contacts, c.id = k.selfContact.id → c = k.selfContact
  isIntermediary : k.selfContact.isIntermediary = false

theorem knowsSelf_ofReference {contacts : List Contact} {accounts : List Account}
    {plans : List SavingsPlan} {securities : List Security} {prior : List PriorMovement}
    (hk : ofReference contacts accounts plans securities prior = .ok k)
    (hids : (contacts.map (·.id)).Nodup) (hself : k.selfContact.isIntermediary = false) :
    k.KnowsSelf := by
  unfold ofReference at hk
  split at hk
  · cases hk
  next self hfind =>
    cases hk
    have hmem := List.mem_of_find?_eq_some hfind
    exact ⟨hmem, fun c hc hid => List.inj_on_of_nodup_map hids hc hmem hid, hself⟩

theorem mem_of_contact? {id : EntityId} (h : k.contact? id = some c) : c ∈ k.contacts :=
  List.mem_of_find?_eq_some h

theorem KnowsSelf.contact?_isSome (hk : k.KnowsSelf) :
    k.contact? k.selfContact.id = some k.selfContact := by
  cases h : k.contact? k.selfContact.id with
  | none =>
    have hno := List.find?_eq_none.mp h _ hk.mem
    simp at hno
  | some c => rw [hk.eq_of_id c (mem_of_contact? h) (id_of_contact? h)]

theorem mem_of_namedContacts {name : Text} (h : (name, c) ∈ k.namedContacts) : c ∈ k.contacts := by
  obtain ⟨c', hc', heq⟩ := List.mem_map.mp h
  cases heq
  exact (List.mem_filter.mp hc').1

theorem mem_of_aliasOf? {t : Text} (h : k.aliasOf? t = some c) : c ∈ k.contacts := by
  obtain ⟨⟨a, c'⟩, hfind, rfl⟩ := Option.map_eq_some_iff.mp h
  have hmem := List.mem_of_find?_eq_some hfind
  rw [aliases, List.mem_mergeSort] at hmem
  obtain ⟨c'', hc'', hmap⟩ := List.mem_flatMap.mp hmem
  obtain ⟨a', -, heq⟩ := List.mem_map.mp hmap
  cases heq
  exact hc''

theorem mem_of_matchContact {search : Text} (h : k.matchContact search = some c) :
    c ∈ k.contacts := by
  simp only [matchContact, Option.orElse_eq_orElse, Option.orElse_eq_or, Option.or_eq_some_iff,
    Option.map_eq_some_iff] at h
  rcases h with ⟨⟨name, c'⟩, hfind, rfl⟩ | ⟨-, ⟨⟨name, c'⟩, hfind, rfl⟩ | ⟨-, h | ⟨-, h⟩⟩⟩
  · exact mem_of_namedContacts (List.mem_of_find?_eq_some hfind)
  · exact mem_of_namedContacts (List.mem_of_find?_eq_some hfind)
  · exact mem_of_aliasOf? h
  · exact mem_of_aliasOf? h

/-! ## To whom an entry is attributed -/

/-- An attribution is to the account holder exactly when it says so. -/
def Sorts (k : Classifier) (a : Attribution) : Prop :=
  a.isOwn = true ↔ a.contactId = some k.selfContact.id

theorem sorts_attributionTo (hk : k.KnowsSelf) (hc : c ∈ k.contacts) :
    k.Sorts (k.attributionTo bank c) := by
  unfold attributionTo
  split
  next hservice =>
    have hne : c.id ≠ k.selfContact.id := by
      intro hid
      rw [hk.eq_of_id c hc hid, hk.isIntermediary] at hservice
      cases hservice
    simp [Sorts, Attribution.isOwn, Attribution.contactId, hne]
  next =>
    split
    next => simp [Sorts, Attribution.isOwn, Attribution.contactId]
    next hother => simp [Sorts, Attribution.isOwn, Attribution.contactId, (not_or.mp hother).2]

theorem sorts_attribution (hk : k.KnowsSelf) : k.Sorts (k.attribution bank e) := by
  unfold attribution
  split
  next bankId _ =>
    split
    next hself => simp [Sorts, Attribution.isOwn, Attribution.contactId, hself.1]
    next hother =>
      -- if the bank were the account holder, the contact of its id would be no payment service
      have hne : bankId ≠ k.selfContact.id := by
        rintro rfl
        exact hother ⟨rfl, by simp [hk.contact?_isSome, hk.isIntermediary]⟩
      simp [Sorts, Attribution.isOwn, Attribution.contactId, hne]
  next =>
    split
    next => simp [Sorts, Attribution.isOwn, Attribution.contactId]
    next first hfirst =>
      have hfirst := mem_of_matchContact hfirst
      split
      next =>
        cases hsecond : k.matchContact (Matching.normalName e.subject) with
        | none => exact sorts_attributionTo hk hfirst
        | some second => exact sorts_attributionTo hk (mem_of_matchContact hsecond)
      next => exact sorts_attributionTo hk hfirst

/-! ## Plans and securities -/

/-- Savings plans are looked for in transfers to oneself, from an account that expects them, so an
entry that names one has both. -/
theorem self_of_plans (h : (k.findings account e).plans ≠ []) :
    (k.findings account e).attribution.contactId.or e.contactId = some k.selfContact.id
      ∧ account.any (·.expectsSavingsPlans) = true := by
  simp only [findings] at h ⊢
  split at h
  next hasked =>
    rw [Bool.and_eq_true, beq_iff_eq] at hasked
    exact hasked.symm
  next => exact absurd rfl h

/-- Securities are looked for in postings of nobody and of the bank that keeps the account. -/
theorem bank_of_securities (h : (k.findings account e).securities ≠ none) :
    (k.findings account e).attribution.contactId.or e.contactId = none
      ∨ (k.findings account e).attribution.contactId.or e.contactId
        = account.bind (·.bankContactId) := by
  simp only [findings] at h ⊢
  split at h
  next => exact absurd rfl h
  next hasked =>
    generalize (k.attribution (account.bind (·.bankContactId)) e).contactId.or e.contactId = contact
      at hasked ⊢
    cases contact with
    | none => exact .inl rfl
    | some id =>
      simp only [Option.isSome_some, Bool.true_and, Bool.or_eq_true, not_or] at hasked
      exact .inr (by simpa using hasked.1)

/-! ## One entry -/

/-- What has been found about a new entry that is not announced makes it well linked. The clauses
are read off the fields that recording gives, one after the other. -/
theorem wellLinked_record (hk : k.KnowsSelf) (he : e.IsNew) (hannounced : e.isAnnounced = false) :
    (e.record (k.findings account e)).WellLinked k account := by
  obtain ⟨hcontact, hplan, hsecurity⟩ := he.unlinked
  have hpending : e.status = .pending := by rw [he.status, hannounced]; rfl
  have hstays : (e.record (k.findings account e)).isAnnounced = false :=
    (Entry.eq_of_bare Entry.isAnnounced (fun _ => rfl) Entry.bare_record).trans hannounced
  have hlinked : (e.record (k.findings account e)).contactId
      = (k.attribution (account.bind (·.bankContactId)) e).contactId := by
    rw [Entry.record_contactId, hcontact, Option.or_none]
    rfl
  constructor
  case contact_of_accounted =>
    intro haccounted
    rw [Entry.record_status] at haccounted
    rw [hlinked]
    rcases (k.findings account e).verdict_cases with hv | ⟨-, hfound⟩ | ⟨hv, -⟩
    · rw [hv] at haccounted
      cases haccounted
    · exact Attribution.contactId_isSome hfound
    · rw [hv, hpending] at haccounted
      cases haccounted
  case isCostNeutral_iff =>
    rw [hlinked, Entry.record_isCostNeutral, he.isCostNeutral, Bool.or_false]
    exact sorts_attribution hk
  case self_of_plan =>
    intro hsome
    rw [Entry.record_savingsPlanId, hplan, Option.or_none, Option.isSome_map] at hsome
    rw [Entry.record_contactId]
    exact self_of_plans fun hnone => by simp [hnone] at hsome
  case bank_of_security =>
    intro hsome
    rw [Entry.record_securityId, hsecurity] at hsome
    rw [Entry.record_contactId]
    exact bank_of_securities fun hnone => by simp [hnone] at hsome
  case announced => simp [hstays]
  case alreadyBooked =>
    intro hbooked
    have hno := (Entry.verdict_of_booked hbooked).2.2
    rw [hpending] at hno
    cases hno
  case pending => exact fun _ => hstays

theorem wellLinked_classifyEntry (hk : k.KnowsSelf) (he : e.IsNew) :
    (k.classifyEntry w account e).WellLinked k account := by
  rw [classifyEntry_eq, he.reopened_eq]
  split
  · exact .of_unlinked ⟨he.unlinked.contact, he.unlinked.plan, he.unlinked.security⟩
      he.isCostNeutral (.inl rfl)
  · split
    · exact he.wellLinked
    · exact wellLinked_record hk he (by simpa using ‹¬ e.isAnnounced = true›)

/-! ## Drafts -/

theorem isNew_ofStatement {newId : Nat → EntityId} {fileName : Text} {s : Statement}
    (he : e ∈ (Draft.ofStatement newId fileName s).entries) : e.IsNew := by
  obtain ⟨⟨m, i⟩, -, rfl⟩ := List.mem_map.mp he
  exact Entry.isNew_ofMovement (newId i) m

/-- Every entry of a draft of a statement is well linked, whatever calls of one classifier the draft
has been through. -/
theorem wellLinked_classifiedBy {contacts : List Contact} {accounts : List Account}
    {plans : List SavingsPlan} {securities : List Security} {prior : List PriorMovement}
    (hk : ofReference contacts accounts plans securities prior = .ok k)
    (hids : (contacts.map (·.id)).Nodup) (hself : k.selfContact.isIntermediary = false)
    (newId : Nat → EntityId) (fileName : Text) (s : Statement) (calls : List (Option EntityId)) :
    let d := (Draft.ofStatement newId fileName s).classifiedBy (calls.map (k, ·))
    ∀ e ∈ d.entries, e.WellLinked k (k.account? d.detectedAccountId) := by
  have hknows := knowsSelf_ofReference hk hids hself
  have hbears : ∀ e ∈ (Draft.ofStatement newId fileName s).entries,
      k.Bears (Draft.ofStatement newId fileName s) calls e := fun e he =>
    .inl (classifyEntry_classifyEntry (Draft.notNeutralIfBooked_ofStatement newId fileName s e he))
  rw [classifiedBy_eq k calls _ hbears]
  intro d e he
  obtain ⟨e, hmem, rfl⟩ := List.mem_map.mp he
  have hnew := isNew_ofStatement hmem
  by_cases hasked : calls.any (asksFor · e) = true
  · -- an entry is reviewed by a call, and the first call has detected the account
    have hcalls : calls ≠ [] := by
      rintro rfl
      cases hasked
    simp only [d, if_pos hasked, if_neg hcalls]
    exact wellLinked_classifyEntry hknows hnew
  · simp only [if_neg hasked]
    exact hnew.wellLinked

end Classifier

namespace Household

/-- A statement with a transfer to oneself, the rent, a posting of the bank, a purchase through a
payment service, and a movement that is announced. -/
def statement : Statement where
  header := {}
  movements := [
    { bookingDate := some rentDay, amount := ⟨true, 1000, -2⟩,
      counterparty := some "Max Mustermann".toList },
    { bookingDate := some rentDay, amount := ⟨true, 50000, -2⟩, subject := some "MIETE".toList,
      counterparty := some "Vermieter GmbH".toList },
    { bookingDate := some rentDay, amount := ⟨true, 490, -2⟩, subject := some "Entgelt".toList },
    { bookingDate := some rentDay, amount := ⟨true, 1999, -2⟩,
      counterparty := some "PayPal".toList },
    { amount := ⟨true, 2500, -2⟩, counterparty := some "Max Mustermann".toList,
      isPreview := true }]

def reviewed : Draft :=
  (Draft.ofStatement (fun i => [Char.ofNat (i + 97)]) "umsatz.csv".toList statement).classifiedBy
    ([some "c".toList, none].map (classifier, ·))

theorem wellLinked_classifiedBy_statement :
    reviewed.entries.map (fun e => (e.status, e.contactId)) =
        [(.accounted, some holder.id), (.alreadyBooked, none), (.accounted, some bank.id),
          (.pending, some service.id), (.announced, none)]
      ∧ ∀ e ∈ reviewed.entries, e.WellLinked classifier (some account) := by
  refine ⟨by decide +kernel, ?_⟩
  have haccount : classifier.account? reviewed.detectedAccountId = some account := by
    decide +kernel
  have hlinked : ∀ e ∈ reviewed.entries,
      e.WellLinked classifier (classifier.account? reviewed.detectedAccountId) :=
    Classifier.wellLinked_classifiedBy classifier_eq (by decide) rfl _ _ statement _
  rwa [haccount] at hlinked

end Household

end BankStatement
