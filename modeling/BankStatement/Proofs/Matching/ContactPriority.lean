import BankStatement.Proofs.Matching.Links
import BankStatement.Proofs.Text.Order
import BankStatement.Proofs.Text.Trimming
import Mathlib.Data.List.Infix

/-!
# Which contact a text finds

A text can name a contact in four ways, and the first way that finds one decides: the text is the
name, the name stands in the text, an alias covers the text, an alias covers the text without its
blanks. `Chosen` says for each way which contact it finds, without the prepared tables, and
`matchContact_eq_some_iff` that this is the one that is returned. Among names the order of the
contacts decides; among aliases the length does, and their order only where lengths are equal
(`aliasOf?_eq_some_iff`).

The program looks through two tables that it has prepared: the names in normal form, without the
blank ones, and the aliases of all contacts, sorted by length. Both are undone here. Looking among
the names is looking among the contacts that have one (`find?_namedContacts`), and since sorting is
stable, the first alias of the sorted table that covers a text is the longest one, and the first in
the given order of those as long (`ownsLongest_of_aliasOf?`).

Length decides among the aliases that cover the same text only. The third and the fourth way look at
different texts, with and without blanks, and a short alias that covers the first comes before a
long one that covers the second.
-/

namespace BankStatement

theorem Text.occursIn_iff {needle t : Text} : occursIn needle t = true ↔ needle <:+: t := by
  induction t with
  | nil => simp [occursIn]
  | cons c t ih =>
      simp only [occursIn, Bool.or_eq_true, ih, List.isPrefixOf_iff_prefix, List.infix_cons_iff]

def FirstWith {α : Type} (p : α → Prop) (a : α) (l : List α) : Prop :=
  p a ∧ ∃ before after, l = before ++ a :: after ∧ ∀ b ∈ before, ¬p b

section FirstWith

variable {α : Type} {p : α → Prop} {q : α → Bool} {l : List α} {a : α}

theorem find?_eq_some_iff_firstWith (hq : ∀ a, q a = true ↔ p a) :
    l.find? q = some a ↔ FirstWith p a l := by
  simp only [List.find?_eq_some_iff_append, FirstWith, hq, Bool.not_eq_true', ← Bool.not_eq_true]

theorem find?_eq_none_iff_forall (hq : ∀ a, q a = true ↔ p a) :
    l.find? q = none ↔ ∀ a ∈ l, ¬p a := by
  simp only [List.find?_eq_none, hq]

end FirstWith

/-! ## Names -/

namespace Contact

/-- The text is the name of the contact. -/
def IsCalled (search : Text) (c : Contact) : Prop :=
  Text.isBlankText c.name = false ∧ Matching.normalName (some c.name) = search

/-- The name of the contact stands in the text. -/
def IsWithin (search : Text) (c : Contact) : Prop :=
  Text.isBlankText c.name = false ∧ Matching.normalName (some c.name) <:+: search

instance (search : Text) (c : Contact) : Decidable (c.IsWithin search) :=
  inferInstanceAs (Decidable (_ ∧ _))

/-- The patterns of a contact: its aliases without the blanks around them, blank ones left out. -/
def patterns (c : Contact) : List Text := c.aliases.filterMap Text.strip?

theorem IsCalled.isWithin {search : Text} {c : Contact} (h : c.IsCalled search) :
    c.IsWithin search :=
  ⟨h.1, h.2 ▸ List.infix_rfl⟩

theorem mem_patterns {c : Contact} {pattern : Text} :
    pattern ∈ c.patterns
      ↔ ∃ alias_ ∈ c.aliases, Text.isBlankText alias_ = false ∧ Text.strip alias_ = pattern := by
  simp only [patterns, List.mem_filterMap, Text.strip?_eq_some_iff, Text.isBlankText_eq_false_iff]
  constructor
  · rintro ⟨alias_, halias, rfl, hne⟩
    exact ⟨alias_, halias, hne, rfl⟩
  · rintro ⟨alias_, halias, hne, rfl⟩
    exact ⟨alias_, halias, rfl, hne⟩

end Contact

namespace Classifier

variable {k : Classifier} {search t : Text} {c : Contact}

/-- Looking among the names is looking among the contacts that have one, in the order of the
contacts. Both ways by name are instances of this. -/
theorem find?_namedContacts (k : Classifier) (q : Text → Bool) :
    ((k.namedContacts.find? fun (name, _) => q name).map (·.2))
      = k.contacts.find? fun c =>
          !Text.isBlankText c.name && q (Matching.normalName (some c.name)) := by
  rw [namedContacts, List.find?_map, List.find?_filter, Option.map_map]
  simp only [Function.comp_def, Option.map_id_fun', id_eq, Bool.decide_and, Bool.decide_eq_true]

theorem called_iff (search : Text) (c : Contact) :
    (!Text.isBlankText c.name && Matching.normalName (some c.name) == search) = true
      ↔ c.IsCalled search := by
  simp [Contact.IsCalled]

theorem within_iff (search : Text) (c : Contact) :
    (!Text.isBlankText c.name && Text.occursIn (Matching.normalName (some c.name)) search) = true
      ↔ c.IsWithin search := by
  simp [Contact.IsWithin, Text.occursIn_iff]

/-! ## Aliases -/

/-- The patterns of all contacts with their owners, in the order of contacts and aliases. -/
def patterns (k : Classifier) : List (Text × Contact) :=
  k.contacts.flatMap fun c => c.patterns.map fun pattern => (pattern, c)

/-- The patterns that cover a text. -/
def covering (k : Classifier) (t : Text) : List (Text × Contact) :=
  k.patterns.filter fun (pattern, _) => Matching.globMatches pattern t

def longerFirst (a b : Text × Contact) : Bool := decide (b.1.length ≤ a.1.length)

/-- The contact owns the longest pattern that covers the text, and of equally long ones the first
in the order of contacts and aliases. -/
def OwnsLongest (k : Classifier) (t : Text) (c : Contact) : Prop :=
  ∃ pattern, FirstIn longerFirst (pattern, c) (k.covering t)

theorem mem_covering {pattern : Text} :
    (pattern, c) ∈ k.covering t
      ↔ c ∈ k.contacts ∧ pattern ∈ c.patterns ∧ Matching.globMatches pattern t = true := by
  simp only [covering, patterns, List.mem_filter, List.mem_flatMap, List.mem_map, Prod.mk.injEq]
  constructor
  · rintro ⟨⟨c, hc, pattern, hpattern, rfl, rfl⟩, hcovers⟩
    exact ⟨hc, hpattern, hcovers⟩
  · rintro ⟨hc, hpattern, hcovers⟩
    exact ⟨⟨c, hc, pattern, hpattern, rfl, rfl⟩, hcovers⟩

theorem OwnsLongest.exists_pattern (h : k.OwnsLongest t c) :
    ∃ pattern, (pattern, c) ∈ k.covering t
      ∧ ∀ other ∈ k.covering t, other.1.length ≤ pattern.length := by
  obtain ⟨pattern, before, after, hl, hbefore, hafter⟩ := h
  refine ⟨pattern, hl ▸ by simp, fun other hother => ?_⟩
  rw [hl, List.mem_append, List.mem_cons] at hother
  rcases hother with hother | rfl | hother
  · have hlonger := hbefore other hother
    simp only [longerFirst, decide_eq_false_iff_not] at hlonger
    omega
  · exact Nat.le_refl _
  · exact of_decide_eq_true (hafter other hother)

theorem OwnsLongest.exists_alias (h : k.OwnsLongest t c) :
    ∃ alias_ ∈ c.aliases, Text.isBlankText alias_ = false
      ∧ Matching.globMatches (Text.strip alias_) t = true := by
  obtain ⟨pattern, hpattern, -⟩ := h.exists_pattern
  obtain ⟨-, hmem, hmatches⟩ := mem_covering.mp hpattern
  obtain ⟨alias_, halias, hblank, rfl⟩ := Contact.mem_patterns.mp hmem
  exact ⟨alias_, halias, hblank, hmatches⟩

theorem aliasOf?_eq (k : Classifier) (t : Text) :
    k.aliasOf? t = ((k.patterns.mergeSort longerFirst).filter fun (pattern, _) =>
      Matching.globMatches pattern t).head?.map (·.2) := by
  rw [aliasOf?, ← List.head?_filter]
  rfl

theorem ownsLongest_of_aliasOf? (h : k.aliasOf? t = some c) : k.OwnsLongest t c := by
  rw [aliasOf?_eq, Option.map_eq_some_iff] at h
  obtain ⟨⟨pattern, c⟩, hhead, rfl⟩ := h
  refine ⟨pattern, firstIn_of_head?_mergeSort (fun a b c hab hbc => ?_) (fun a b => ?_) hhead⟩
  · simp only [longerFirst, decide_eq_true_eq] at hab hbc ⊢
    omega
  · simp only [longerFirst, Bool.or_eq_true, decide_eq_true_eq]
    omega

theorem aliasOf?_eq_none_iff : k.aliasOf? t = none ↔ k.covering t = [] := by
  rw [aliasOf?_eq, Option.map_eq_none_iff, List.head?_eq_none_iff, covering,
    ← List.length_eq_zero_iff, ((List.mergeSort_perm _ longerFirst).filter _).length_eq,
    List.length_eq_zero_iff]

theorem aliasOf?_eq_some_iff : k.aliasOf? t = some c ↔ k.OwnsLongest t c := by
  refine ⟨ownsLongest_of_aliasOf?, fun ⟨pattern, hfirst⟩ => ?_⟩
  cases hfound : k.aliasOf? t with
  | none =>
      obtain ⟨before, after, hl, -⟩ := hfirst
      rw [aliasOf?_eq_none_iff.mp hfound] at hl
      simp at hl
  | some found =>
      obtain ⟨longest, hlongest⟩ := ownsLongest_of_aliasOf? hfound
      rw [(Prod.mk.inj (hfirst.unique hlongest)).2]

/-! ## The four ways in a row -/

/-- The contact a text finds. -/
inductive Chosen (k : Classifier) (search : Text) (c : Contact) : Prop
  | called (h : FirstWith (·.IsCalled search) c k.contacts)
  | within (hcalled : ∀ c ∈ k.contacts, ¬c.IsCalled search)
      (h : FirstWith (·.IsWithin search) c k.contacts)
  | covered (hwithin : ∀ c ∈ k.contacts, ¬c.IsWithin search) (h : k.OwnsLongest search c)
  | coveredTogether (hwithin : ∀ c ∈ k.contacts, ¬c.IsWithin search)
      (hcovered : k.covering search = []) (h : k.OwnsLongest (Matching.dropBlanks search) c)

/-- Nobody has a name in the text, and no pattern covers it with or without its blanks. -/
structure FindsNobody (k : Classifier) (search : Text) : Prop where
  within : ∀ c ∈ k.contacts, ¬c.IsWithin search
  covering : k.covering search = []
  coveringTogether : k.covering (Matching.dropBlanks search) = []

theorem not_isCalled (h : ∀ c ∈ k.contacts, ¬c.IsWithin search) :
    ∀ c ∈ k.contacts, ¬c.IsCalled search := by
  intro c hc hcalled
  exact h c hc hcalled.isWithin

theorem matchContact_eq_some_iff : k.matchContact search = some c ↔ k.Chosen search c := by
  simp only [matchContact, Option.orElse_eq_orElse, Option.orElse_eq_or, Option.or_eq_some_iff,
    aliasOf?_eq_some_iff, aliasOf?_eq_none_iff, k.find?_namedContacts (· == search),
    k.find?_namedContacts (Text.occursIn · search), find?_eq_some_iff_firstWith (called_iff search),
    find?_eq_none_iff_forall (called_iff search), find?_eq_some_iff_firstWith (within_iff search),
    find?_eq_none_iff_forall (within_iff search)]
  constructor
  · rintro (h | ⟨hcalled, h | ⟨hwithin, h | ⟨hcovered, h⟩⟩⟩)
    · exact .called h
    · exact .within hcalled h
    · exact .covered hwithin h
    · exact .coveredTogether hwithin hcovered h
  · rintro (h | ⟨hcalled, h⟩ | ⟨hwithin, h⟩ | ⟨hwithin, hcovered, h⟩)
    · exact .inl h
    · exact .inr ⟨hcalled, .inl h⟩
    · exact .inr ⟨not_isCalled hwithin, .inr ⟨hwithin, .inl h⟩⟩
    · exact .inr ⟨not_isCalled hwithin, .inr ⟨hwithin, .inr ⟨hcovered, h⟩⟩⟩

theorem matchContact_eq_none_iff : k.matchContact search = none ↔ k.FindsNobody search := by
  simp only [matchContact, Option.orElse_eq_orElse, Option.orElse_eq_or, Option.or_eq_none_iff,
    aliasOf?_eq_none_iff, k.find?_namedContacts (· == search),
    k.find?_namedContacts (Text.occursIn · search), find?_eq_none_iff_forall (called_iff search),
    find?_eq_none_iff_forall (within_iff search)]
  constructor
  · rintro ⟨-, hwithin, hcovered, htogether⟩
    exact ⟨hwithin, hcovered, htogether⟩
  · rintro ⟨hwithin, hcovered, htogether⟩
    exact ⟨not_isCalled hwithin, hwithin, hcovered, htogether⟩

/-- No pattern that covers the text is longer than one of the contact that is chosen by its aliases.
If the text without its blanks was decisive, none covers the text itself. -/
theorem Chosen.longest (h : k.Chosen search c) {other : Text × Contact}
    (hother : other ∈ k.covering search) :
    c.IsWithin search
      ∨ ∃ pattern, (pattern, c) ∈ k.covering search ∧ other.1.length ≤ pattern.length := by
  cases h with
  | called h => exact .inl h.1.isWithin
  | within _ h => exact .inl h.1
  | covered _ h =>
      obtain ⟨pattern, hpattern, hlongest⟩ := h.exists_pattern
      exact .inr ⟨pattern, hpattern, hlongest other hother⟩
  | coveredTogether _ hcovered _ =>
      rw [hcovered] at hother
      cases hother

/-- What has chosen the contact is not blank. A blank name would stand in every text, and it is left
out of the table for this reason. -/
theorem Chosen.not_blank (h : k.Chosen search c) :
    c.IsWithin search ∨ ∃ alias_ ∈ c.aliases, Text.isBlankText alias_ = false
      ∧ (Matching.globMatches (Text.strip alias_) search = true
        ∨ Matching.globMatches (Text.strip alias_) (Matching.dropBlanks search) = true) := by
  cases h with
  | called h => exact .inl h.1.isWithin
  | within _ h => exact .inl h.1
  | covered _ h =>
      obtain ⟨alias_, halias, hblank, hmatches⟩ := h.exists_alias
      exact .inr ⟨alias_, halias, hblank, .inl hmatches⟩
  | coveredTogether _ _ h =>
      obtain ⟨alias_, halias, hblank, hmatches⟩ := h.exists_alias
      exact .inr ⟨alias_, halias, hblank, .inr hmatches⟩

/-- A text finds the contact that the four ways choose, and nobody if they choose nobody. So a
contact that was found by an alias owns one at least as long as every other that covers the text
itself, and neither a blank name nor a blank alias ever finds anybody. -/
theorem matchContact_priority (k : Classifier) (search : Text) :
    (∀ c, k.matchContact search = some c ↔ k.Chosen search c)
      ∧ (k.matchContact search = none ↔ k.FindsNobody search)
      ∧ ∀ c, k.matchContact search = some c →
          c ∈ k.contacts
            ∧ (∀ other ∈ k.covering search, c.IsWithin search
              ∨ ∃ pattern, (pattern, c) ∈ k.covering search ∧ other.1.length ≤ pattern.length)
            ∧ (c.IsWithin search ∨ ∃ alias_ ∈ c.aliases, Text.isBlankText alias_ = false
              ∧ (Matching.globMatches (Text.strip alias_) search = true
                ∨ Matching.globMatches (Text.strip alias_)
                    (Matching.dropBlanks search) = true)) := by
  refine ⟨fun c => matchContact_eq_some_iff, matchContact_eq_none_iff, fun c hc => ?_⟩
  have hchosen := matchContact_eq_some_iff.mp hc
  exact ⟨mem_of_matchContact hc, fun other hother => hchosen.longest hother, hchosen.not_blank⟩

end Classifier

namespace Household

def amazon : Contact where
  id := "amazon".toList
  name := "Amazon EU".toList
  aliases := [" ".toList, "Amazon*".toList, "amazon?prime?video".toList]

def prime : Contact where
  id := "prime".toList
  name := "Prime Video Abo".toList
  aliases := ["*prime*video*".toList, "Amazon Prime*Video ".toList]

def nameless : Contact where
  id := "nameless".toList
  name := " ".toList
  aliases := [[]]

/-- Of two patterns of eighteen characters the one of the earlier contact decides. -/
theorem matchContact_priority_prime :
    let k := { classifier with contacts := [holder, nameless, prime, amazon] }
    k.matchContact "amazon prime video".toList = some prime
      ∧ ∃ pattern, (pattern, prime) ∈ k.covering "amazon prime video".toList
        ∧ "amazon?prime?video".length ≤ pattern.length := by
  intro k
  have hpriority := Classifier.matchContact_priority k "amazon prime video".toList
  have hfound := (hpriority.1 prime).mpr (.covered (by decide +kernel)
    ⟨"Amazon Prime*Video".toList, ["*prime*video*".toList].map (·, prime),
      ["Amazon*".toList, "amazon?prime?video".toList].map (·, amazon), by decide +kernel, by decide,
      by decide⟩)
  refine ⟨hfound, ?_⟩
  have hlongest := (hpriority.2.2 prime hfound).2.1 ("amazon?prime?video".toList, amazon)
    (by decide +kernel)
  exact hlongest.resolve_left (by decide +kernel)

end Household

end BankStatement
