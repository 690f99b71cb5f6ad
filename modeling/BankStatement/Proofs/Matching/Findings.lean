import BankStatement.Matching.Classifier

/-!
# What classification finds and records

Classifying an entry runs three searches, for a contact, for savings plans and for securities, and
writes down what each of them finds before the next one starts. Here the searches are apart from the
writing: `Classifier.findings` says what is found, `Entry.record` writes it down, and
`classifyEntry_eq` says that this, after the look for duplicates, is what classification does.

An entry keeps everything that the statement says about it (`bare_classifyEntry`). What is found
depends on that and on the contact that is linked when nobody is found, so recording does not change
what is found (`findings_record`).

The separation is the base of all statements about classification, because the writes of the program
come in an order in which later ones undo earlier ones, and a later search looks at what an earlier
one has written. With the findings apart, the fields of the result are given once for all of them
(`record_status`, `record_contactId` and the others), and no proof about a field has to go through
the stages again.

The hard part is the contact. Behind a payment service the subject is looked up in place of the
counterparty, and the link to the service stands until somebody is found; a contact that is another
of the own banks is replaced by the account holder. `Attribution` has one case for each of these,
and `assignContact_eq` goes through them.

The contact that had been linked before is the one input that recording changes. It matters only
where nobody is found now, and then recording leaves it as it is, which is the reason that
`findings_record` holds.
-/

namespace BankStatement

/-! ## Findings -/

inductive Attribution where
  /-- Nobody has been found. -/
  | nobody
  /-- A payment service, behind which nobody has been found. -/
  | service (id : EntityId)
  /-- Somebody on the other side. -/
  | contact (id : EntityId)
  /-- The account holder, who moves money between the own accounts. -/
  | own (id : EntityId)
  deriving DecidableEq, Repr

namespace Attribution

def contactId : Attribution → Option EntityId
  | nobody => none
  | service id | contact id | own id => some id

def isAccounted : Attribution → Bool
  | nobody | service _ => false
  | contact _ | own _ => true

/-- Whether the movement stays within the own accounts. -/
def isOwn : Attribution → Bool
  | nobody | service _ | contact _ => false
  | own _ => true

theorem contactId_isSome {a : Attribution} (h : a.isAccounted = true) :
    a.contactId.isSome = true := by
  cases a with
  | nobody | service => cases h
  | contact | own => rfl

theorem isOwn_of_not_accounted {a : Attribution} (h : a.isAccounted = false) : a.isOwn = false := by
  cases a with
  | nobody | service => rfl
  | contact | own => cases h

end Attribution

/-- What classification finds about an entry: to whom it belongs, the savings plans it names, and
the securities it names, if securities are looked for. -/
structure Findings where
  attribution : Attribution
  plans : List SavingsPlan
  securities : Option (List Security)

namespace Findings

variable {f : Findings}

def isAmbiguous (f : Findings) : Bool :=
  decide (1 < f.plans.length) || decide (1 < (f.securities.getD []).length)

/-- The status that findings decide on, if they do. -/
def verdict (f : Findings) : Option EntryStatus :=
  if f.isAmbiguous then some .needsCheck
  else if f.attribution.isAccounted then some .accounted
  else none

theorem verdict_cases (f : Findings) :
    f.verdict = some .needsCheck
      ∨ (f.verdict = some .accounted ∧ f.attribution.isAccounted = true)
      ∨ (f.verdict = none ∧ f.attribution.isAccounted = false) := by
  unfold verdict
  cases f.isAmbiguous with
  | true => exact .inl rfl
  | false =>
    cases h : f.attribution.isAccounted with
    | true => exact .inr (.inl ⟨rfl, rfl⟩)
    | false => exact .inr (.inr ⟨rfl, rfl⟩)

end Findings

namespace Entry

variable {e : Entry} {f : Findings}

/-! ## Recording -/

def recordAttribution (e : Entry) (a : Attribution) : Entry :=
  { e with
    contactId := a.contactId.or e.contactId
    status := if a.isAccounted then .accounted else e.status
    isCostNeutral := a.isOwn || e.isCostNeutral }

theorem recordAttribution_service (e : Entry) (id : EntityId) :
    e.recordAttribution (.service id) = e.linkContact id := rfl

theorem recordAttribution_contact (e : Entry) (id : EntityId) :
    e.recordAttribution (.contact id) = e.markAccounted id := rfl

def recordPlans (e : Entry) (plans : List SavingsPlan) : Entry :=
  { e with
    savingsPlanId := (plans.head?.map (·.id)).or e.savingsPlanId
    status := if 1 < plans.length then .needsCheck else e.status }

/-- If securities have been looked for in vain, the link and the details of the posting go. -/
def recordSecurities (e : Entry) : Option (List Security) → Entry
  | none => e
  | some [] => e.linkSecurity none
  | some (s :: rest) =>
    { e with securityId := some s.id, status := if rest = [] then e.status else .needsCheck }

def record (e : Entry) (f : Findings) : Entry :=
  ((e.recordAttribution f.attribution).recordPlans f.plans).recordSecurities f.securities

@[simp] theorem record_contactId :
    (e.record f).contactId = f.attribution.contactId.or e.contactId := by
  unfold record recordSecurities
  split <;> rfl

@[simp] theorem record_isCostNeutral :
    (e.record f).isCostNeutral = (f.attribution.isOwn || e.isCostNeutral) := by
  unfold record recordSecurities
  split <;> rfl

@[simp] theorem record_savingsPlanId :
    (e.record f).savingsPlanId = (f.plans.head?.map (·.id)).or e.savingsPlanId := by
  unfold record recordSecurities
  split <;> rfl

@[simp] theorem record_securityId : (e.record f).securityId
    = f.securities.elim e.securityId fun found => found.head?.map (·.id) := by
  unfold record recordSecurities
  split <;> simp_all [linkSecurity, recordPlans, recordAttribution]

@[simp] theorem record_status : (e.record f).status = f.verdict.getD e.status := by
  obtain ⟨a, plans, securities⟩ := f
  by_cases hplans : 1 < plans.length <;> cases haccounted : a.isAccounted <;>
    rcases securities with _ | _ | ⟨s, _ | ⟨s', rest⟩⟩ <;>
    simp [record, recordSecurities, recordPlans, recordAttribution, linkSecurity, Findings.verdict,
      Findings.isAmbiguous, hplans, haccounted]

/-- The entry with its decisions taken back, unless it is a duplicate. -/
def reopened (e : Entry) : Entry := if e.status = .alreadyBooked then e else e.resetOpen

def decided (e : Entry) (status : EntryStatus) (isCostNeutral : Bool) : Entry :=
  { e with status, isCostNeutral }

/-- The entry without what classification decides. -/
def bare (e : Entry) : Entry :=
  { (e.decided .pending false).linkSecurity none with contactId := none, savingsPlanId := none }

/-- What can be told from the entry without its decisions is the same for entries that differ only
in decisions. -/
theorem eq_of_bare {α : Type} (g : Entry → α) (hg : ∀ e : Entry, g e.bare = g e) {e e' : Entry}
    (h : e'.bare = e.bare) : g e' = g e := by
  rw [← hg e', h, hg]

theorem bare_reopened : e.reopened.bare = e.bare := by
  unfold reopened
  split <;> rfl

theorem bare_recordAttribution (a : Attribution) : (e.recordAttribution a).bare = e.bare := rfl

theorem bare_recordPlans (plans : List SavingsPlan) : (e.recordPlans plans).bare = e.bare := rfl

theorem bare_recordSecurities (securities : Option (List Security)) :
    (e.recordSecurities securities).bare = e.bare := by
  unfold recordSecurities
  split <;> rfl

theorem bare_record : (e.record f).bare = e.bare := by
  rw [record, bare_recordSecurities, bare_recordPlans, bare_recordAttribution]

/-- Recording the same once more changes nothing, even if status and cost have been reset to what
makes no difference to it. This is what a second call does to an entry. -/
theorem record_decided_record {status : EntryStatus} {isCostNeutral : Bool}
    (hstatus : f.verdict.getD status = f.verdict.getD e.status)
    (hcost : (f.attribution.isOwn || isCostNeutral) = (f.attribution.isOwn || e.isCostNeutral)) :
    ((e.record f).decided status isCostNeutral).record f = e.record f := by
  have hsame : (((e.record f).decided status isCostNeutral).record f).status
      = (e.record f).status := by
    rw [record_status, record_status]
    exact hstatus
  -- the links are written over by what they are already
  obtain ⟨a, plans, securities⟩ := f
  rcases securities with _ | _ | ⟨s, rest⟩ <;>
    simp_all [record, recordSecurities, recordPlans, recordAttribution, linkSecurity, decided,
      ← Option.or_assoc]

end Entry

namespace Classifier

variable {k : Classifier} {e e' : Entry}

/-! ## Searching -/

/-- What a contact on the other side means: a payment service hides somebody else, and a transfer to
another of the own banks is one to oneself. -/
def attributionTo (k : Classifier) (bank : Option EntityId) (c : Contact) : Attribution :=
  if c.isIntermediary then .service c.id
  else if (c.kind = .bank ∧ bank.isSome ∧ some c.id ≠ bank) ∨ c.id = k.selfContact.id then
    .own k.selfContact.id
  else .contact c.id

/-- To whom an entry is attributed: to the bank, if it has no counterparty and the bank is known,
and else to the contact its counterparty names or, behind a payment service, its subject. -/
def attribution (k : Classifier) (bank : Option EntityId) (e : Entry) : Attribution :=
  match Text.isBlankText (e.counterparty.getD []), bank with
  | true, some bankId =>
    if bankId = k.selfContact.id ∧ (k.contact? bankId).any (!·.isIntermediary) then .own bankId
    else .contact bankId
  | _, _ =>
    match k.matchContact (Matching.normalName e.counterparty) with
    | none => .nobody
    | some first =>
      if first.isIntermediary then
        k.attributionTo bank ((k.matchContact (Matching.normalName e.subject)).getD first)
      else k.attributionTo bank first

/-- What is found about an entry of a draft that belongs to an account. -/
def findings (k : Classifier) (account : Option Account) (e : Entry) : Findings :=
  let bank := account.bind (·.bankContactId)
  let attribution := k.attribution bank e
  let contact := attribution.contactId.or e.contactId
  { attribution
    plans :=
      if account.any (·.expectsSavingsPlans) && contact == some k.selfContact.id then
        k.savingsPlans.filter (planMatches e.subject)
      else []
    securities :=
      if contact.isSome && contact != bank || k.securities.isEmpty then none
      else some (k.securities.filter (securityMatches (securityText e))) }

/-! ## Classifying is searching and recording -/

theorem id_of_contact? {id : EntityId} {c : Contact} (h : k.contact? id = some c) : c.id = id := by
  simpa using List.find?_some h

def IsOfBank (e : Entry) (bank : Option EntityId) : Prop :=
  Text.isBlankText (e.counterparty.getD []) = true ∧ bank.isSome = true

instance (e : Entry) (bank : Option EntityId) : Decidable (IsOfBank e bank) := instDecidableAnd

theorem resolve_of_bank (k : Classifier) (search : Text) {bankId : EntityId}
    (h : IsOfBank e (some bankId)) :
    k.resolve e search (some bankId) = (e.markAccounted bankId, k.contact? bankId) := by
  simp only [resolve, h.1]

theorem resolve_of_name (k : Classifier) (search : Text) {bank : Option EntityId}
    (h : ¬ IsOfBank e bank) :
    k.resolve e search bank =
      match k.matchContact search with
      | none => (e, none)
      | some c =>
        if c.isIntermediary then (e.linkContact c.id, some c)
        else (e.markAccounted c.id, some c) := by
  unfold resolve
  split
  next hblank => exact absurd ⟨hblank, rfl⟩ h
  next => rfl

theorem attribution_of_name {bank : Option EntityId} (h : ¬ IsOfBank e bank) :
    k.attribution bank e =
      match k.matchContact (Matching.normalName e.counterparty) with
      | none => .nobody
      | some first =>
        if first.isIntermediary then
          k.attributionTo bank ((k.matchContact (Matching.normalName e.subject)).getD first)
        else k.attributionTo bank first := by
  unfold attribution
  split
  next hblank => exact absurd ⟨hblank, rfl⟩ h
  next => rfl

theorem attributionTo_of_service {c : Contact} {bank : Option EntityId}
    (h : c.isIntermediary = true) : k.attributionTo bank c = .service c.id := if_pos h

theorem settleContact_eq {c : Contact} {bank : Option EntityId} (h : c.isIntermediary = false) :
    k.settleContact (e.markAccounted c.id) c bank
      = e.recordAttribution (k.attributionTo bank c) := by
  unfold settleContact attributionTo
  rw [h, if_neg Bool.false_ne_true]
  by_cases hbank : c.kind = .bank ∧ bank.isSome ∧ some c.id ≠ bank
  · rw [if_pos hbank, if_pos (.inl hbank)]
    rfl
  · rw [if_neg hbank]
    by_cases hself : c.id = k.selfContact.id
    · rw [if_pos hself, if_pos (.inr hself), hself]
      rfl
    · rw [if_neg hself, if_neg (not_or.mpr ⟨hbank, hself⟩)]
      rfl

theorem assignContact_of_none {e₁ : Entry} {bank : Option EntityId}
    (h : k.resolve e (Matching.normalName e.counterparty) bank = (e₁, none)) :
    (k.assignContact e bank).1 = e₁ := by
  simp only [assignContact, h]

theorem assignContact_of_contact {e₁ : Entry} {c : Contact} {bank : Option EntityId}
    (h : k.resolve e (Matching.normalName e.counterparty) bank = (e₁, some c))
    (hc : c.isIntermediary = false) :
    (k.assignContact e bank).1 = k.settleContact e₁ c bank := by
  simp only [assignContact, h, hc, Bool.false_eq_true, if_false]

/-- Behind a payment service, what the subject names counts, if it names somebody. The entry stays
linked to the service otherwise, without being accounted for. -/
theorem assignContact_of_service {e₁ e₂ : Entry} {c : Contact} {second : Option Contact}
    {bank : Option EntityId}
    (h : k.resolve e (Matching.normalName e.counterparty) bank = (e₁, some c))
    (hc : c.isIntermediary = true)
    (h₂ : k.resolve e₁ (Matching.normalName e₁.subject) bank = (e₂, second)) :
    (k.assignContact e bank).1 =
      if (second.getD c).isIntermediary then e₂ else k.settleContact e₂ (second.getD c) bank := by
  simp only [assignContact, h, hc, if_true, h₂]
  split <;> rfl

theorem assignContact_of_bank {bankId : EntityId} (h : IsOfBank e (some bankId)) :
    (k.assignContact e (some bankId)).1 = e.recordAttribution (k.attribution (some bankId) e) := by
  have hfirst := resolve_of_bank k (Matching.normalName e.counterparty) h
  simp only [attribution, h.1]
  cases hc : k.contact? bankId with
  | none =>
    rw [hc] at hfirst
    rw [assignContact_of_none hfirst]
    simp [Entry.recordAttribution_contact]
  | some c =>
    obtain rfl := id_of_contact? hc
    rw [hc] at hfirst
    cases hservice : c.isIntermediary with
    | true =>
      have hagain : IsOfBank (e.markAccounted c.id) (some c.id) := h
      have hsecond := resolve_of_bank k (Matching.normalName e.subject) hagain
      rw [hc] at hsecond
      rw [assignContact_of_service hfirst hservice hsecond]
      simp [hservice, Entry.recordAttribution_contact, Entry.markAccounted]
    | false =>
      rw [assignContact_of_contact hfirst hservice, settleContact_eq hservice]
      by_cases hself : c.id = k.selfContact.id <;> simp [attributionTo, hservice, hself]

theorem assignContact_of_name {bank : Option EntityId} (h : ¬ IsOfBank e bank) :
    (k.assignContact e bank).1 = e.recordAttribution (k.attribution bank e) := by
  have hfirst := resolve_of_name k (Matching.normalName e.counterparty) h
  rw [attribution_of_name h]
  cases hc : k.matchContact (Matching.normalName e.counterparty) with
  | none =>
    rw [hc] at hfirst
    exact assignContact_of_none hfirst
  | some first =>
    rw [hc] at hfirst
    cases hservice : first.isIntermediary with
    | false =>
      simp only [hservice, Bool.false_eq_true, if_false] at hfirst ⊢
      rw [assignContact_of_contact hfirst hservice, settleContact_eq hservice]
    | true =>
      have hagain : ¬ IsOfBank (e.linkContact first.id) bank := h
      have hsecond := resolve_of_name k (Matching.normalName e.subject) hagain
      simp only [hservice, if_true] at hfirst ⊢
      rw [assignContact_of_service hfirst hservice hsecond]
      cases k.matchContact (Matching.normalName e.subject) with
      | none => simp [hservice, attributionTo_of_service hservice, Entry.recordAttribution_service]
      | some second =>
        cases hservice₂ : second.isIntermediary with
        | true =>
          -- two services, and the second one is what stays linked
          simp [hservice₂, attributionTo_of_service hservice₂, Entry.recordAttribution_service,
            Entry.linkContact]
        | false =>
          simp only [hservice₂, Bool.false_eq_true, if_false, Option.getD_some]
          exact settleContact_eq (e := e) hservice₂

theorem assignContact_eq (k : Classifier) (e : Entry) (bank : Option EntityId) :
    (k.assignContact e bank).1 = e.recordAttribution (k.attribution bank e) := by
  by_cases h : IsOfBank e bank
  · obtain ⟨bankId, rfl⟩ := Option.isSome_iff_exists.mp h.2
    exact assignContact_of_bank h
  · exact assignContact_of_name h

theorem assignSavingsPlan_eq (k : Classifier) (e : Entry) :
    (k.assignSavingsPlan e).1 = e.recordPlans
      (if e.contactId = some k.selfContact.id then k.savingsPlans.filter (planMatches e.subject)
        else []) := by
  unfold assignSavingsPlan
  by_cases hself : e.contactId = some k.selfContact.id
  · rw [if_neg (not_not_intro hself), if_pos hself]
    split
    next h => simp [h, Entry.recordPlans]
    next p h => simp [h, Entry.recordPlans, Entry.linkSavingsPlan]
    next p rest hmany h =>
      cases rest with
      | nil => exact absurd rfl hmany
      | cons q rest => simp [h, Entry.recordPlans, Entry.linkSavingsPlan, Entry.markNeedsCheck]
  · rw [if_pos hself, if_neg hself]
    simp [Entry.recordPlans]

theorem assignSecurity_eq (k : Classifier) (e : Entry) (bank : Option EntityId) :
    (k.assignSecurity e bank).1 = e.recordSecurities
      (if e.contactId.isSome && e.contactId != bank || k.securities.isEmpty then none
        else some (k.securities.filter (securityMatches (securityText e)))) := by
  unfold assignSecurity
  cases e.contactId.isSome && e.contactId != bank with
  | true => rfl
  | false =>
    cases k.securities.isEmpty with
    | true => rfl
    | false =>
      simp only [Bool.false_eq_true, if_false, Bool.or_self]
      split
      next h => rw [h]; rfl
      next s h => simp [h, Entry.recordSecurities, Entry.linkSecurity]
      next s rest hmany h =>
        cases rest with
        | nil => exact absurd rfl hmany
        | cons t rest => simp [h, Entry.recordSecurities, Entry.linkSecurity, Entry.markNeedsCheck]

variable {w : DuplicateWindow} {account : Option Account}

theorem contains_congr (h : e'.bare = e.bare) : w.contains e' = w.contains e :=
  Entry.eq_of_bare w.contains (fun _ => rfl) h

theorem attribution_congr {bank : Option EntityId} (h : e'.bare = e.bare) :
    k.attribution bank e' = k.attribution bank e :=
  Entry.eq_of_bare (k.attribution bank) (fun _ => rfl) h

/-- What is found depends on what the statement says and on the contact that is linked, where no
contact is found. Status, cost and the other links do not matter. -/
theorem findings_congr (h : e'.bare = e.bare)
    (hcontact : (k.attribution (account.bind (·.bankContactId)) e).contactId.or e'.contactId
      = (k.attribution (account.bind (·.bankContactId)) e).contactId.or e.contactId) :
    k.findings account e' = k.findings account e := by
  have hsubject : e'.subject = e.subject := Entry.eq_of_bare Entry.subject (fun _ => rfl) h
  have htext : securityText e' = securityText e := Entry.eq_of_bare securityText (fun _ => rfl) h
  simp only [findings, attribution_congr h, hcontact, hsubject, htext]

/-- Recording what has been found does not change what is found, whatever status and cost are set to
afterwards. So a second call finds the same. -/
theorem findings_record {status : EntryStatus} {isCostNeutral : Bool} :
    k.findings account ((e.record (k.findings account e)).decided status isCostNeutral)
      = k.findings account e := by
  refine findings_congr Entry.bare_record ?_
  show Option.or _ (e.record _).contactId = _
  rw [Entry.record_contactId, ← Option.or_assoc, findings, Option.or_self]

theorem plans_eq (k : Classifier) (account : Option Account) (e : Entry) :
    (if (account.map (·.expectsSavingsPlans)).getD false then (k.assignSavingsPlan e).1 else e)
      = e.recordPlans
        (if account.any (·.expectsSavingsPlans) && e.contactId == some k.selfContact.id then
          k.savingsPlans.filter (planMatches e.subject)
        else []) := by
  have hnone : e.recordPlans [] = e := rfl
  cases account with
  | none => exact hnone.symm
  | some a =>
    cases ha : a.expectsSavingsPlans with
    | false => simp [ha, hnone]
    | true => simp [ha, assignSavingsPlan_eq]

/-- The three searches, each with what it records, are all searches and then all records: no search
looks at anything that an earlier record writes, but for the contact. -/
theorem assign_eq (k : Classifier) (account : Option Account) (e : Entry) :
    (k.assignSecurity
      (if (account.map (·.expectsSavingsPlans)).getD false then
        (k.assignSavingsPlan (k.assignContact e (account.bind (·.bankContactId))).1).1
      else (k.assignContact e (account.bind (·.bankContactId))).1)
      (account.bind (·.bankContactId))).1 = e.record (k.findings account e) := by
  rw [plans_eq, assignSecurity_eq, assignContact_eq]
  rfl

theorem findings_reopened : k.findings account e.reopened = k.findings account e := by
  have hcontact : e.reopened.contactId = e.contactId := by
    unfold Entry.reopened
    split <;> rfl
  exact findings_congr Entry.bare_reopened (by rw [hcontact])

/-- Classifying an entry is looking for a duplicate first, and then, unless the entry is only
announced, searching and recording. -/
theorem classifyEntry_eq (k : Classifier) (w : DuplicateWindow) (account : Option Account)
    (e : Entry) :
    k.classifyEntry w account e =
      if w.contains e then e.reopened.markAlreadyBooked
      else if e.isAnnounced then e.reopened
      else e.reopened.record (k.findings account e) := by
  have hwindow : w.contains e.reopened = w.contains e := contains_congr Entry.bare_reopened
  have hannounced : e.reopened.isAnnounced = e.isAnnounced :=
    Entry.eq_of_bare Entry.isAnnounced (fun _ => rfl) Entry.bare_reopened
  rw [← findings_reopened, ← assign_eq, ← hwindow, ← hannounced]
  rfl

/-! ## What stays -/

theorem bare_classifyEntry : (k.classifyEntry w account e).bare = e.bare := by
  rw [classifyEntry_eq]
  split
  · exact Entry.bare_reopened
  · split
    · exact Entry.bare_reopened
    · rw [Entry.bare_record, Entry.bare_reopened]

end Classifier

end BankStatement
