import BankStatement.Proofs.Matching.Reclassification
import BankStatement.Proofs.Text.Order

/-!
# Entries that have to be checked

Classifying an entry writes its status several times: it is taken back, decided by the contact, and
decided again by savings plans and securities. What remains in the end is that somebody has to look
at an entry exactly if it names several plans or several securities where these are looked for
(`status_record_iff`, `status_classifyEntry_needsCheck`), and that the link goes to the first of
them, in the order in which the plans were given (`savingsPlanId_classifyEntry`) and in the order of
names for securities (`securityId_classifyEntry`).

The statements are about the reference data as they were given. The classifier keeps them prepared:
inactive plans and securities are left out, and securities are sorted by name. `SavingsPlan.namedBy`
and `Security.namedBy` say what an entry names without this, and the lemmas of the second part show
that looking through the prepared data is the same.

Where plans and securities are looked for depends on the contact that has been found by then, and
this is the one found now or the one that had been linked before (`resolvedContact`). A later call
can thus look where the first did not, which is why the entry is arbitrary in the main statement.
-/

namespace BankStatement

/-- The active plans that an entry names in its subject, in the order in which they were given. -/
def SavingsPlan.namedBy (plans : List SavingsPlan) (e : Entry) : List SavingsPlan :=
  plans.filter fun p => p.isActive && Classifier.planMatches e.subject p

/-- The active securities that an entry names, in the order in which they were given. -/
def Security.namedBy (securities : List Security) (e : Entry) : List Security :=
  securities.filter fun s =>
    s.isActive && Classifier.securityMatches (Classifier.securityText e) s

def Security.FirstByName (s : Security) (securities : List Security) : Prop :=
  FirstIn (fun a b : Security => Text.le a.name b.name) s securities

namespace Entry

variable {e : Entry} {f : Findings}

/-- No stage before the searches asks for a check, whatever the status has been: an earlier decision
of that sort is taken back. -/
theorem status_reopened_ne : e.reopened.status ≠ .needsCheck := by
  intro h
  rcases e.status_reopened with hbooked | hinitial
  · rw [h] at hbooked
    cases hbooked
  · rw [h] at hinitial
    cases hannounced : e.reopened.isAnnounced <;> rw [hannounced] at hinitial <;> cases hinitial

theorem status_record_iff (he : e.status ≠ .needsCheck) :
    (e.record f).status = .needsCheck
      ↔ 2 ≤ f.plans.length ∨ 2 ≤ (f.securities.getD []).length := by
  have hambiguous : f.isAmbiguous = true
      ↔ 2 ≤ f.plans.length ∨ 2 ≤ (f.securities.getD []).length := by
    simp only [Findings.isAmbiguous, Bool.or_eq_true, decide_eq_true_eq]
    exact Iff.rfl
  rw [record_status, ← hambiguous]
  unfold Findings.verdict
  by_cases h : f.isAmbiguous = true
  · simp [h]
  · rw [if_neg h]
    split <;> simp [h, he]

end Entry

namespace Classifier

variable {k : Classifier} {contacts : List Contact} {accounts : List Account}
  {plans : List SavingsPlan} {securities : List Security} {prior : List PriorMovement}
  {w : DuplicateWindow} {account : Option Account} {e : Entry}

/-! ## What is looked at -/

theorem savingsPlans_ofReference
    (hk : ofReference contacts accounts plans securities prior = .ok k) :
    k.savingsPlans = plans.filter (·.isActive) := by
  unfold ofReference at hk
  split at hk
  · cases hk
  · cases hk
    rfl

theorem securities_ofReference
    (hk : ofReference contacts accounts plans securities prior = .ok k) :
    k.securities = (securities.filter (·.isActive)).mergeSort fun a b => Text.le a.name b.name := by
  unfold ofReference at hk
  split at hk
  · cases hk
  · cases hk
    rfl

theorem filter_savingsPlans (hk : ofReference contacts accounts plans securities prior = .ok k) :
    k.savingsPlans.filter (planMatches e.subject) = SavingsPlan.namedBy plans e := by
  rw [savingsPlans_ofReference hk, List.filter_filter, SavingsPlan.namedBy]
  exact List.filter_congr fun p _ => Bool.and_comm ..

theorem filter_active_securities :
    (securities.filter (·.isActive)).filter (securityMatches (securityText e))
      = Security.namedBy securities e := by
  rw [List.filter_filter, Security.namedBy]
  exact List.filter_congr fun s _ => Bool.and_comm ..

theorem length_filter_securities
    (hk : ofReference contacts accounts plans securities prior = .ok k) :
    (k.securities.filter (securityMatches (securityText e))).length
      = (Security.namedBy securities e).length := by
  rw [securities_ofReference hk, ← filter_active_securities]
  exact ((List.mergeSort_perm _ _).filter _).length_eq

theorem firstByName_of_head? (hk : ofReference contacts accounts plans securities prior = .ok k)
    {s : Security}
    (hs : (k.securities.filter (securityMatches (securityText e))).head? = some s) :
    s.FirstByName (Security.namedBy securities e) := by
  rw [securities_ofReference hk] at hs
  rw [Security.FirstByName, ← filter_active_securities]
  exact firstIn_of_head?_mergeSort (fun _ _ _ => Text.le_trans _ _ _) (fun _ _ => Text.le_total _ _)
    hs

/-! ## The contact and the stages -/

/-- The contact of an entry once it has been looked for. -/
def resolvedContact (k : Classifier) (account : Option Account) (e : Entry) : Option EntityId :=
  (k.assignContact e (account.bind (·.bankContactId))).1.contactId

def LooksForPlans (k : Classifier) (account : Option Account) (e : Entry) : Prop :=
  account.any (·.expectsSavingsPlans) = true
    ∧ k.resolvedContact account e = some k.selfContact.id

/-- Securities are looked for: the entry belongs to nobody or to the bank. -/
def LooksForSecurities (k : Classifier) (account : Option Account) (e : Entry) : Prop :=
  k.resolvedContact account e = none
    ∨ k.resolvedContact account e = account.bind (·.bankContactId)

/-- An entry goes through the stages unless it is a duplicate or only announced. -/
structure GoesThrough (w : DuplicateWindow) (e : Entry) : Prop where
  contains : w.contains e = false
  isAnnounced : e.isAnnounced = false

theorem resolvedContact_eq (k : Classifier) (account : Option Account) (e : Entry) :
    k.resolvedContact account e
      = (k.attribution (account.bind (·.bankContactId)) e).contactId.or e.contactId := by
  rw [resolvedContact, assignContact_eq]
  rfl

theorem plans_findings (hk : ofReference contacts accounts plans securities prior = .ok k) :
    (k.LooksForPlans account e → (k.findings account e).plans = SavingsPlan.namedBy plans e)
      ∧ (¬ k.LooksForPlans account e → (k.findings account e).plans = []) := by
  simp only [LooksForPlans, resolvedContact_eq, findings, ← filter_savingsPlans hk]
  constructor
  · rintro ⟨hexpects, hself⟩
    simp [hexpects, hself]
  · intro hnot
    refine if_neg fun h => hnot ?_
    simpa using h

theorem securities_findings :
    (k.LooksForSecurities account e → (k.findings account e).securities.getD []
        = k.securities.filter (securityMatches (securityText e)))
      ∧ (¬ k.LooksForSecurities account e → (k.findings account e).securities = none) := by
  simp only [LooksForSecurities, resolvedContact_eq, findings]
  generalize (k.attribution (account.bind (·.bankContactId)) e).contactId.or e.contactId = contact
  constructor
  · intro hbank
    by_cases hempty : k.securities = []
    · simp [hempty]
    · rcases hbank with hnone | hbank
      · simp [hnone, hempty]
      · simp [hbank, hempty]
  · intro hnot
    refine if_pos ?_
    rw [not_or] at hnot
    simp [Option.isSome_iff_ne_none, hnot.1, hnot.2]

/-! ## Checks -/

theorem classifyEntry_of_goesThrough (h : GoesThrough w e) :
    k.classifyEntry w account e = e.reopened.record (k.findings account e) := by
  rw [classifyEntry_eq, h.contains, h.isAnnounced]
  rfl

theorem status_of_not_goesThrough (h : ¬ GoesThrough w e) :
    (k.classifyEntry w account e).status ≠ .needsCheck := by
  rw [classifyEntry_eq]
  split
  · nofun
  next hcontains =>
    split
    · exact Entry.status_reopened_ne
    next hannounced =>
      exact absurd ⟨Bool.not_eq_true _ ▸ hcontains, Bool.not_eq_true _ ▸ hannounced⟩ h

theorem status_classifyEntry_needsCheck
    (hk : ofReference contacts accounts plans securities prior = .ok k) :
    (k.classifyEntry w account e).status = .needsCheck ↔ GoesThrough w e
      ∧ ((k.LooksForPlans account e ∧ 2 ≤ (SavingsPlan.namedBy plans e).length)
        ∨ (k.LooksForSecurities account e ∧ 2 ≤ (Security.namedBy securities e).length)) := by
  by_cases h : GoesThrough w e
  · rw [classifyEntry_of_goesThrough h, Entry.status_record_iff Entry.status_reopened_ne]
    refine (or_congr ?_ ?_).trans (and_iff_right h).symm
    · by_cases hplans : k.LooksForPlans account e
      · rw [(plans_findings hk).1 hplans, and_iff_right hplans]
      · rw [(plans_findings hk).2 hplans]
        simp [hplans]
    · by_cases hsecurities : k.LooksForSecurities account e
      · rw [securities_findings.1 hsecurities, length_filter_securities hk,
          and_iff_right hsecurities]
      · rw [securities_findings.2 hsecurities]
        simp [hsecurities]
  · exact iff_of_false (status_of_not_goesThrough h) fun hboth => h hboth.1

/-! ## Links -/

theorem savingsPlanId_classifyEntry
    (hk : ofReference contacts accounts plans securities prior = .ok k) (h : GoesThrough w e)
    (hplans : k.LooksForPlans account e) {p : SavingsPlan} {others : List SavingsPlan}
    (hp : SavingsPlan.namedBy plans e = p :: others) :
    (k.classifyEntry w account e).savingsPlanId = some p.id := by
  rw [classifyEntry_of_goesThrough h, Entry.record_savingsPlanId, (plans_findings hk).1 hplans, hp]
  rfl

theorem securityId_classifyEntry
    (hk : ofReference contacts accounts plans securities prior = .ok k) (h : GoesThrough w e)
    (hsecurities : k.LooksForSecurities account e) (hne : Security.namedBy securities e ≠ []) :
    ∃ s : Security, s.FirstByName (Security.namedBy securities e)
      ∧ (k.classifyEntry w account e).securityId = some s.id := by
  have hfound := securities_findings.1 hsecurities
  have hlength := length_filter_securities (e := e) hk
  cases hfilter : k.securities.filter (securityMatches (securityText e)) with
  | nil =>
      rw [hfilter] at hlength
      exact absurd (List.length_eq_zero_iff.mp hlength.symm) hne
  | cons s others =>
      rw [hfilter] at hfound
      refine ⟨s, firstByName_of_head? hk (by rw [hfilter]; rfl), ?_⟩
      rw [classifyEntry_of_goesThrough h, Entry.record_securityId]
      cases hsome : (k.findings account e).securities with
      | none => rw [hsome] at hfound; cases hfound
      | some found =>
          rw [hsome] at hfound
          cases hfound
          rfl

/-- Somebody has to look at an entry exactly if it is neither a duplicate nor only announced, and
names several active plans where plans are looked for, or several active securities where these
are. Of several plans the first one given is linked, of several securities the first one by name. No
stage behind the search for a contact changes what it has found. -/
theorem needsCheck_iff_ambiguous
    (hk : ofReference contacts accounts plans securities prior = .ok k) (w : DuplicateWindow)
    (account : Option Account) (e : Entry) :
    ((k.classifyEntry w account e).status = .needsCheck ↔ GoesThrough w e
        ∧ ((k.LooksForPlans account e ∧ 2 ≤ (SavingsPlan.namedBy plans e).length)
          ∨ (k.LooksForSecurities account e ∧ 2 ≤ (Security.namedBy securities e).length)))
      ∧ (GoesThrough w e →
        (k.classifyEntry w account e).contactId = k.resolvedContact account e
        ∧ (k.LooksForPlans account e → 2 ≤ (SavingsPlan.namedBy plans e).length →
          ∃ p others, SavingsPlan.namedBy plans e = p :: others
            ∧ (k.classifyEntry w account e).savingsPlanId = some p.id)
        ∧ (k.LooksForSecurities account e → 2 ≤ (Security.namedBy securities e).length →
          ∃ s : Security, s.FirstByName (Security.namedBy securities e)
            ∧ (k.classifyEntry w account e).securityId = some s.id)) := by
  refine ⟨status_classifyEntry_needsCheck hk, fun h => ⟨?_, fun hplans hmany => ?_,
    fun hsecurities hmany => ?_⟩⟩
  · have hcontact : e.reopened.contactId = e.contactId := by
      unfold Entry.reopened
      split <;> rfl
    rw [classifyEntry_of_goesThrough h, Entry.record_contactId, hcontact, resolvedContact_eq]
    rfl
  · obtain ⟨p, others, hp⟩ := List.exists_cons_of_length_pos (Nat.lt_of_succ_lt hmany)
    exact ⟨p, others, hp, savingsPlanId_classifyEntry hk h hplans hp⟩
  · refine securityId_classifyEntry hk h hsecurities fun hnil => ?_
    rw [hnil] at hmany
    cases hmany

end Classifier

namespace Household

def savingAccount : Account := { account with expectsSavingsPlans := true }

def plans : List SavingsPlan := [
  { id := "old".toList, name := "Urlaub 2025".toList, isActive := false },
  { id := "travel".toList, name := "Urlaub".toList },
  { id := "contract".toList, name := "Bausparen".toList, contractNumber := "20-25".toList }]

def securities : List Security := [
  { id := "zeta".toList, name := "Zeta AG".toList },
  { id := "alpha".toList, name := "Alpha AG".toList, identifier := "DE000A".toList }]

def saver : Classifier where
  contacts := contacts
  selfContact := holder
  accounts := [savingAccount]
  savingsPlans := plans.drop 1
  securities := securities.reverse
  priorMovements := [rent]

theorem saver_eq :
    Classifier.ofReference contacts [savingAccount] plans securities [rent] = .ok saver := by
  have hsorted : (securities.filter (·.isActive)).mergeSort (fun a b => Text.le a.name b.name)
      = securities.reverse := by
    have hbefore : Text.le "Zeta AG".toList "Alpha AG".toList = false := by decide
    simpa [securities, List.mergeSort, List.merge] using hbefore
  simp only [Classifier.ofReference, hsorted]
  rfl

/-- A transfer to oneself that names two plans, one by its contract. -/
def saving : Entry where
  id := "a".toList
  bookingDate := some rentDay
  subject := some "URLAUB 2025".toList
  counterparty := some "Max Mustermann".toList
  status := .alreadyBooked

/-- A posting of the bank that names two securities. -/
def settlement : Entry where
  id := "b".toList
  bookingDate := some rentDay
  subject := some "Depot: Zeta AG, DE-000-A".toList

theorem needsCheck_iff_ambiguous_saver :
    Classifier.ofReference contacts [savingAccount] plans securities [rent] = .ok saver
      ∧ (saver.classifyEntry ⟨none, []⟩ (some savingAccount) saving).status = .needsCheck
      ∧ (saver.classifyEntry ⟨none, []⟩ (some savingAccount) saving).savingsPlanId
        = some "travel".toList
      ∧ (saver.classifyEntry ⟨none, []⟩ (some savingAccount) settlement).status = .needsCheck
      ∧ (saver.classifyEntry ⟨none, []⟩ (some savingAccount) settlement).securityId
        = some "alpha".toList := by
  have hsaving :=
    Classifier.needsCheck_iff_ambiguous saver_eq ⟨none, []⟩ (some savingAccount) saving
  have hsettlement :=
    Classifier.needsCheck_iff_ambiguous saver_eq ⟨none, []⟩ (some savingAccount) settlement
  have hplans : saver.LooksForPlans (some savingAccount) saving := ⟨rfl, by decide +kernel⟩
  have hsecurities : saver.LooksForSecurities (some savingAccount) settlement :=
    .inr (by decide +kernel)
  have hplansMany : 2 ≤ (SavingsPlan.namedBy plans saving).length := by decide +kernel
  have hsecuritiesMany : 2 ≤ (Security.namedBy securities settlement).length := by decide +kernel
  refine ⟨saver_eq, hsaving.1.mpr ⟨⟨rfl, rfl⟩, .inl ⟨hplans, hplansMany⟩⟩, ?_,
    hsettlement.1.mpr ⟨⟨rfl, rfl⟩, .inr ⟨hsecurities, hsecuritiesMany⟩⟩, by decide +kernel⟩
  obtain ⟨p, others, hp, hlinked⟩ := (hsaving.2 ⟨rfl, rfl⟩).2.1 hplans hplansMany
  have hfirst : (SavingsPlan.namedBy plans saving).head?.map (·.id) = some "travel".toList := by
    decide +kernel
  rw [hp] at hfirst
  exact hlinked.trans hfirst

end Household

end BankStatement
