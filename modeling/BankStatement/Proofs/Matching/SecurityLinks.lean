import BankStatement.Proofs.Matching.Ambiguity
import BankStatement.Proofs.Matching.ContactPriority
import BankStatement.Proofs.Text.Splitting

/-!
# Which security an entry is linked with

The normal form of securities commutes with concatenation, so what stands in a text stands in its
normal form as well (`normalSecurity_infix`), and characters without a trace in the normal form can
be put in or left out (`Respelled.normalSecurity_eq`). A security that is named in one of the texts
of an entry is therefore found (`mem_namedBy_of_mentions`).

Of the securities that are found the first by name is linked (`assignSecurity_of_found`). When all
active securities have different names, the order in which they were given leaves no trace in the
classifier (`ofReference_reordered`).

That a security is found is one direction only. The texts of an entry are joined before they are
normalized, and the blank between them leaves no trace, so a name may also be found across two texts
in neither of which it stands. Only that a mention is never missed is claimed.

A name that consists of characters without a trace finds nothing, as an empty text would stand in
every other. For securities with the same name the order in which they were given does decide, since
sorting keeps it.
-/

namespace BankStatement

namespace Matching

/-! ## Spelling -/

/-- A character without a trace in the normal form of securities: a blank, punctuation. -/
def IsNoise (c : Char) : Prop := normalSecurity [c] = []

instance (c : Char) : Decidable (IsNoise c) := inferInstanceAs (Decidable (_ = _))

/-- Two spellings of a text: characters without a trace are put in or left out anywhere. -/
inductive Respelled : Text → Text → Prop
  | nil : Respelled [] []
  | keep (c : Char) {s t : Text} (h : Respelled s t) : Respelled (c :: s) (c :: t)
  | putIn {c : Char} {s t : Text} (hnoise : IsNoise c) (h : Respelled s t) : Respelled s (c :: t)
  | leaveOut {c : Char} {s t : Text} (hnoise : IsNoise c) (h : Respelled s t) :
    Respelled (c :: s) t

variable {s t : Text}

theorem normalSecurity_cons (c : Char) (t : Text) :
    normalSecurity (c :: t) = normalSecurity [c] ++ normalSecurity t :=
  normalSecurity_append [c] t

theorem Respelled.normalSecurity_eq (h : Respelled s t) : normalSecurity s = normalSecurity t := by
  induction h with
  | nil => rfl
  | keep c _ ih => rw [normalSecurity_cons, ih, ← normalSecurity_cons]
  | putIn hnoise _ ih => rw [normalSecurity_cons, hnoise, List.nil_append, ih]
  | leaveOut hnoise _ ih => rw [normalSecurity_cons, hnoise, List.nil_append, ih]

theorem normalSecurity_infix (h : s <:+: t) : normalSecurity s <:+: normalSecurity t := by
  obtain ⟨before, after, rfl⟩ := h
  rw [normalSecurity_append, normalSecurity_append]
  exact List.infix_append _ _ _

end Matching

/-- The texts by which a security can be named. -/
def Security.names (s : Security) : List Text := s.name :: s.identifier.toList

/-- The texts of an entry in which a security can be named. -/
def Entry.texts (e : Entry) : List Text :=
  [e.subject.getD [], e.postingDescription.getD [], e.counterparty.getD []]

/-- A name stands in one of the texts of an entry, in some spelling. -/
def Entry.Mentions (e : Entry) (name : Text) : Prop :=
  ∃ part ∈ e.texts, ∃ spelled, spelled <:+: part ∧ Matching.Respelled name spelled

namespace Classifier

variable {k : Classifier} {contacts : List Contact} {accounts : List Account}
  {plans : List SavingsPlan} {securities others : List Security} {prior : List PriorMovement}
  {e : Entry} {bank : Option EntityId} {s : Security} {name : Text}

/-! ## What is found -/

theorem infix_securityText (h : e.Mentions name) :
    Matching.normalSecurity name <:+: securityText e := by
  obtain ⟨part, hpart, spelled, hspelled, hname⟩ := h
  rw [hname.normalSecurity_eq]
  exact Matching.normalSecurity_infix (hspelled.trans (Text.infix_joinWith hpart))

theorem probe_of_infix {haystack : Text} (hne : Matching.normalSecurity name ≠ [])
    (h : Matching.normalSecurity name <:+: haystack) : probe (some name) haystack = true := by
  have hsome : (Matching.normalSecurity name).isEmpty = false := by simpa using hne
  have hfound : Text.occursIn (Matching.normalSecurity name) haystack = true :=
    Text.occursIn_iff.mpr h
  simp only [probe, Option.getD_some, hsome, hfound]
  rfl

theorem securityMatches_of_mentions (hname : name ∈ s.names)
    (hne : Matching.normalSecurity name ≠ []) (h : e.Mentions name) :
    securityMatches (securityText e) s = true := by
  have hprobe := probe_of_infix hne (infix_securityText h)
  rw [securityMatches, Bool.or_eq_true]
  rcases List.mem_cons.mp hname with rfl | hidentifier
  · exact .inr hprobe
  · rw [Option.mem_toList] at hidentifier
    rw [hidentifier]
    exact .inl hprobe

theorem mem_namedBy_of_mentions (hs : s ∈ securities) (hactive : s.isActive = true)
    (hname : name ∈ s.names) (hne : Matching.normalSecurity name ≠ []) (h : e.Mentions name) :
    s ∈ Security.namedBy securities e := by
  have hmatches := securityMatches_of_mentions hname hne h
  rw [Security.namedBy, List.mem_filter, hactive, hmatches]
  exact ⟨hs, rfl⟩

/-! ## What is linked -/

/-- Securities are looked for: the entry has no contact or the bank's, and there are securities. -/
structure SearchesSecurities (k : Classifier) (e : Entry) (bank : Option EntityId) : Prop where
  contact : e.contactId = none ∨ e.contactId = bank
  securities : k.securities ≠ []

theorem searchesSecurities_of_active
    (hk : ofReference contacts accounts plans securities prior = .ok k)
    (hcontact : e.contactId = none ∨ e.contactId = bank)
    (hactive : ∃ s ∈ securities, s.isActive = true) : k.SearchesSecurities e bank := by
  refine ⟨hcontact, fun hnone => ?_⟩
  obtain ⟨s, hs, hactive⟩ := hactive
  have hmem : s ∈ k.securities := by
    rw [securities_ofReference hk, List.mem_mergeSort]
    exact List.mem_filter.mpr ⟨hs, hactive⟩
  rw [hnone] at hmem
  cases hmem

theorem assignSecurity_of_searches (h : k.SearchesSecurities e bank) :
    k.assignSecurity e bank =
      match k.securities.filter (securityMatches (securityText e)) with
      | [] => (e.linkSecurity none, none)
      | [s] => (e.linkSecurity (some s.id), some s)
      | s :: _ => ((e.linkSecurity (some s.id)).markNeedsCheck, some s) := by
  have hcontact : (e.contactId.isSome && e.contactId != bank) = false := by
    rcases h.contact with hnone | hbank
    · rw [hnone]
      rfl
    · rw [hbank, bne_self_eq_false, Bool.and_false]
  have hsecurities : k.securities.isEmpty = false := by simpa using h.securities
  rw [assignSecurity, hcontact, hsecurities]
  rfl

theorem assignSecurity_of_none (h : k.SearchesSecurities e bank)
    (hfound : k.securities.filter (securityMatches (securityText e)) = []) :
    k.assignSecurity e bank =
      ({ e with
          securityId := none
          securityAction := none
          securityQuantity := none
          securityFee := none
          securityTax := none },
        none) := by
  rw [assignSecurity_of_searches h, hfound]
  rfl

theorem assignSecurity_of_found (h : k.SearchesSecurities e bank) {rest : List Security}
    (hfound : k.securities.filter (securityMatches (securityText e)) = s :: rest) :
    k.assignSecurity e bank =
      ({ e with
          securityId := some s.id
          status := if 2 ≤ (s :: rest).length then .needsCheck else e.status },
        some s) := by
  rw [assignSecurity_of_searches h, hfound]
  cases rest with
  | nil => rfl
  | cons t rest =>
      have hmany : 2 ≤ (s :: t :: rest).length := Nat.le_add_left 2 rest.length
      rw [if_pos hmany]
      rfl

/-! ## The order in which securities are given -/

/-- When the active securities have different names, the classifier does not depend on the order in
which they are given: sorting by name has only one result. Inactive ones do not count. -/
theorem ofReference_reordered
    (hk : ofReference contacts accounts plans securities prior = .ok k)
    (hperm : others.Perm securities)
    (hnames : ((securities.filter (·.isActive)).map (·.name)).Nodup) :
    ofReference contacts accounts plans others prior = .ok k := by
  have hactive : (securities.filter (·.isActive)).Perm (others.filter (·.isActive)) :=
    (hperm.filter _).symm
  have hsorted := mergeSort_congr hactive hnames
  rw [← hk, ofReference, ofReference, hsorted]

/-- The normal form of securities commutes with concatenation. So an active security is found whose
name or identifier, unless it is nothing but characters without a trace, stands in one of the texts
of the entry in any spelling. An entry without a contact or with the bank's is linked with the first
by name of the securities that are found, has to be checked if there are several, and loses the
details of the security if there is none. With different names the order in which the securities
were given makes no difference. -/
theorem assignSecurity_firstByName
    (hk : ofReference contacts accounts plans securities prior = .ok k) :
    (∀ s t, Matching.normalSecurity (s ++ t)
        = Matching.normalSecurity s ++ Matching.normalSecurity t)
      ∧ (∀ (e : Entry), ∀ s ∈ securities, s.isActive = true → ∀ name ∈ s.names,
        Matching.normalSecurity name ≠ [] → e.Mentions name → s ∈ Security.namedBy securities e)
      ∧ (∀ (e : Entry) (bank : Option EntityId), (e.contactId = none ∨ e.contactId = bank) →
        (∃ s ∈ securities, s.isActive = true) →
        (Security.namedBy securities e = [] →
          k.assignSecurity e bank =
            ({ e with
                securityId := none
                securityAction := none
                securityQuantity := none
                securityFee := none
                securityTax := none },
              none))
        ∧ (Security.namedBy securities e ≠ [] →
          ∃ s : Security, s.FirstByName (Security.namedBy securities e)
            ∧ k.assignSecurity e bank =
              ({ e with
                  securityId := some s.id
                  status :=
                    if 2 ≤ (Security.namedBy securities e).length then .needsCheck
                    else e.status },
                some s)))
      ∧ (((securities.filter (·.isActive)).map (·.name)).Nodup →
        ∀ others : List Security, others.Perm securities →
          ∃ k', ofReference contacts accounts plans others prior = .ok k'
            ∧ ∀ e bank, k'.assignSecurity e bank = k.assignSecurity e bank) := by
  refine ⟨Matching.normalSecurity_append, ?_, ?_, ?_⟩
  · intro e s hs hactive name hname hne hmentions
    exact mem_namedBy_of_mentions hs hactive hname hne hmentions
  · intro e bank hcontact hactive
    have hsearches := searchesSecurities_of_active hk hcontact hactive
    have hlength := length_filter_securities (e := e) hk
    constructor
    · intro hnone
      rw [hnone, List.length_nil, List.length_eq_zero_iff] at hlength
      exact assignSecurity_of_none hsearches hlength
    · intro hsome
      cases hfound : k.securities.filter (securityMatches (securityText e)) with
      | nil =>
          rw [hfound] at hlength
          exact absurd (List.length_eq_zero_iff.mp hlength.symm) hsome
      | cons s rest =>
          refine ⟨s, firstByName_of_head? hk (by rw [hfound]; rfl), ?_⟩
          rw [← hlength, hfound]
          exact assignSecurity_of_found hsearches hfound
  · intro hnames others hperm
    exact ⟨k, ofReference_reordered hk hperm hnames, fun e bank => rfl⟩

end Classifier

namespace Household

def alpha : Security where
  id := "alpha".toList
  name := "Alpha AG".toList
  identifier := "DE000A".toList

/-- The settlement names the second security by its identifier, written with hyphens. -/
theorem mentions_settlement : settlement.Mentions "DE000A".toList := by
  have hyphen : Matching.IsNoise '-' := by decide +kernel
  have hspelled : "DE-000-A".toList <:+: "Depot: Zeta AG, DE-000-A".toList := by decide
  refine ⟨_, List.mem_cons_self, _, hspelled, ?_⟩
  exact .keep 'D' (.keep 'E' (.putIn hyphen (.keep '0' (.keep '0' (.keep '0' (.putIn hyphen
    (.keep 'A' .nil)))))))

theorem assignSecurity_firstByName_settlement :
    Classifier.ofReference contacts [savingAccount] plans securities [rent] = .ok saver
      ∧ alpha ∈ Security.namedBy securities settlement
      ∧ saver.assignSecurity settlement none
        = ({ settlement with securityId := some "alpha".toList, status := .needsCheck }, some alpha)
      ∧ ∃ k, Classifier.ofReference contacts [savingAccount] plans securities.reverse [rent] = .ok k
        ∧ k.assignSecurity settlement none = saver.assignSecurity settlement none := by
  obtain ⟨-, hfound, hlinked, horder⟩ := Classifier.assignSecurity_firstByName saver_eq
  have hnamed : Security.namedBy securities settlement = securities := by decide +kernel
  have halpha : alpha ∈ securities := by decide
  have hfirst : alpha.FirstByName (Security.namedBy securities settlement) := by
    rw [hnamed]
    exact ⟨securities.take 1, [], by decide, by decide, nofun⟩
  have hmember : alpha ∈ Security.namedBy securities settlement :=
    hfound settlement alpha halpha rfl "DE000A".toList (by decide) (by decide +kernel)
      mentions_settlement
  obtain ⟨s, hs, hassigned⟩ := (hlinked settlement none (.inl rfl) ⟨alpha, halpha, rfl⟩).2
    (List.ne_nil_of_mem hmember)
  obtain ⟨k, hk, hsame⟩ := horder (by decide) securities.reverse (List.reverse_perm securities)
  have hs' : s = alpha := hs.unique hfirst
  subst hs'
  rw [hnamed] at hassigned
  exact ⟨saver_eq, hmember, hassigned, k, hk, hsame settlement none⟩

end Household

end BankStatement
