import BankStatement.Proofs.Matching.Review
import Mathlib.Data.List.Nodup
import Mathlib.Data.List.Forall2

/-!
# Entries are classified independently

A review depends on the account of the draft and on the days of its entries, and neither knows an
order. So it does not matter in which order entries with different ids are asked for one by one
(`classifiedBy_ids`), what the entries next to an entry are asked for, or in which order they stand
(`classify_reorder`).

There is one difference between all entries and each of them, in a draft without entries: the call
for all of them still detects the account. With nothing to ask for one by one there is no call at
all, and the account of the draft stays unknown.

Ids have to tell the entries apart for a call to be about one of them. The order of entries is given
by a list of positions, a permutation of all of them, so that entries that are alike can still be
told apart by where they stand.

An entry that is asked for by none of several calls is left alone, and one that is asked for once is
reviewed once (`bears_of_nodup`); nothing in the reviews of the others changes what it is reviewed
by, as `Proofs.Matching.Review` shows. Hence the calls can be taken in any order.
-/

namespace BankStatement

namespace Draft

/-- The draft with its entries in the order of some positions. -/
def reorder (d : Draft) (positions : List Nat) : Draft :=
  { d with entries := positions.filterMap (d.entries[·]?) }

variable {d : Draft} {positions : List Nat}

theorem filterMap_range_entries (entries : List Entry) :
    (List.range entries.length).filterMap (entries[·]?) = entries := by
  induction entries with
  | nil => rfl
  | cons e entries ih =>
    rw [List.length_cons, List.range_succ_eq_map, List.filterMap_cons, List.filterMap_map]
    exact congrArg (e :: ·) ih

theorem entries_reorder_perm (h : positions.Perm (List.range d.entries.length)) :
    (d.reorder positions).entries.Perm d.entries := by
  have hperm := h.filterMap (d.entries[·]?)
  rwa [filterMap_range_entries] at hperm

end Draft

namespace Classifier

variable {k : Classifier} {only : Option EntityId} {d : Draft} {e : Entry} {ids : List EntityId}
  {positions : List Nat}

/-! ## Calls for one id -/

theorem asksFor_some {id : EntityId} : asksFor (some id) e = (id == e.id) := rfl

theorem reviewFor_of_ne {x : EntityId} (h : e.id ≠ x) : k.reviewFor (some x) d e = e := by
  rw [reviewFor, asksFor_some, if_neg]
  simpa using h.symm

theorem classify_unknown {x : EntityId} (h : x ∉ d.entries.map (·.id)) :
    k.classify (some x) d = k.detectAccount d := by
  have hentries : d.entries.map (k.reviewFor (some x) d) = d.entries.map id :=
    List.map_congr_left fun e he => reviewFor_of_ne fun hid => h (List.mem_map.mpr ⟨e, he, hid⟩)
  rw [classify_eq, hentries, List.map_id, detectAccount_eq]

/-! ## Calls one by one -/

theorem any_asksFor : (ids.map some).any (asksFor · e) = true ↔ e.id ∈ ids := by
  simp [asksFor_some]

theorem bears_of_nodup (h : ids.Nodup) (e : Entry) : k.Bears d (ids.map some) e := by
  refine .inr ?_
  rw [List.countP_map]
  exact List.nodup_iff_count_le_one.mp h e.id

/-- Calls for all ids, one by one, review every entry and detect the account. In a draft with
entries, this is what a single call for all of them does. -/
theorem classifiedBy_ids (hids : (d.entries.map (·.id)).Nodup)
    (h : ids.Perm (d.entries.map (·.id))) :
    d.classifiedBy (ids.map fun id => (k, some id)) = { d with
      detectedAccountId := if d.entries = [] then d.detectedAccountId else k.accountOf d
      entries := d.entries.map (k.review d) } := by
  have hcalls : ids.map (fun id => (k, some id)) = (ids.map some).map (k, ·) := by
    rw [List.map_map]
    rfl
  have hnone : ids.map some = [] ↔ d.entries = [] := by
    rw [List.map_eq_nil_iff]
    constructor
    · rintro rfl
      exact List.map_eq_nil_iff.mp h.symm.eq_nil
    · intro hnil
      rw [hnil] at h
      exact h.eq_nil
  have hall : ∀ e ∈ d.entries,
      (if (ids.map some).any (asksFor · e) then k.review d e else e) = k.review d e := by
    intro e he
    have hmem : e.id ∈ ids := h.mem_iff.mpr (List.mem_map.mpr ⟨e, he, rfl⟩)
    rw [if_pos (any_asksFor.mpr hmem)]
  rw [hcalls, classifiedBy_eq k _ d fun e _ => bears_of_nodup (h.nodup_iff.mpr hids) e,
    List.map_congr_left hall]
  simp only [hnone]

/-! ## Another order of the entries -/

theorem reviewFor_reorder (h : positions.Perm (List.range d.entries.length)) :
    k.reviewFor only (d.reorder positions) = k.reviewFor only d := by
  have hdays : ∀ day, day ∈ (d.reorder positions).entries.filterMap (·.bookingDate)
      ↔ day ∈ d.entries.filterMap (·.bookingDate) := fun day =>
    ((Draft.entries_reorder_perm h).filterMap _).mem_iff
  have hreview : k.review (d.reorder positions) = k.review d := review_congr rfl hdays
  funext e
  rw [reviewFor, reviewFor, hreview]

theorem classify_reorder (h : positions.Perm (List.range d.entries.length)) :
    k.classify only (d.reorder positions) = (k.classify only d).reorder positions := by
  have hmap : (d.reorder positions).entries.map (k.reviewFor only d)
      = positions.filterMap ((d.entries.map (k.reviewFor only d))[·]?) := by
    simp only [Draft.reorder, List.map_filterMap, List.getElem?_map]
  rw [classify_eq, reviewFor_reorder h, hmap, classify_eq]
  rfl

/-! ## Independence -/

/-- The entries of a draft, told apart by their ids, are classified independently of each other: all
of them as one by one in any order, one of them without the others, and in the order in which they
stand. -/
theorem classify_independent (k : Classifier) (d : Draft) (hids : (d.entries.map (·.id)).Nodup) :
    (∀ ids : List EntityId, ids.Perm (d.entries.map (·.id)) →
        (d.entries ≠ [] → d.classifiedBy (ids.map fun id => (k, some id)) = k.classify none d)
          ∧ k.detectAccount (d.classifiedBy (ids.map fun id => (k, some id))) = k.classify none d)
      ∧ (∀ x : EntityId,
        List.Forall₂ (fun e e' => e.id ≠ x → e' = e) d.entries (k.classify (some x) d).entries
          ∧ (x ∉ d.entries.map (·.id) → k.classify (some x) d = k.detectAccount d))
      ∧ ∀ only positions, positions.Perm (List.range d.entries.length) →
        k.classify only (d.reorder positions) = (k.classify only d).reorder positions := by
  refine ⟨fun ids hperm => ?_, fun x => ⟨?_, classify_unknown⟩, fun _ _ => classify_reorder⟩
  · have hwhole : k.classify none d = { d with
        detectedAccountId := k.accountOf d
        entries := d.entries.map (k.review d) } := classify_eq k none d
    rw [classifiedBy_ids hids hperm, hwhole]
    constructor
    · intro hne
      rw [if_neg hne]
    · rw [detectAccount_eq]
      split
      · rfl
      · simp only [accountOf, Option.or_assoc, Option.or_self]
  · rw [entries_classify, List.forall₂_map_right_iff, List.forall₂_same]
    exact fun e _ => reviewFor_of_ne

end Classifier

namespace Household

def purchase : Entry where
  id := "a".toList
  bookingDate := some rentDay
  amount := ⟨true, 1999, -2⟩
  counterparty := some "PayPal".toList

def standingOrder : Entry where
  id := "b".toList
  bookingDate := some rentDay
  amount := ⟨true, 500, 0⟩
  subject := some "miete".toList

def expenses : Draft where
  originalFileName := "umsatz.csv".toList
  entries := [purchase, standingOrder]

theorem classify_independent_expenses :
    expenses.classifiedBy [(classifier, some standingOrder.id), (classifier, some purchase.id)]
        = classifier.classify none expenses
      ∧ (classifier.classify none expenses).entries
        = [purchase.linkContact service.id, standingOrder.markAlreadyBooked]
      ∧ classifier.classify (some "c".toList) expenses = classifier.detectAccount expenses
      ∧ classifier.classify none { expenses with entries := [standingOrder, purchase] }
        = { classifier.classify none expenses with
          entries := [standingOrder.markAlreadyBooked, purchase.linkContact service.id] } := by
  obtain ⟨hone, hother, horder⟩ :=
    Classifier.classify_independent classifier expenses (by decide)
  have hreviewed : (classifier.classify none expenses).entries
      = [purchase.linkContact service.id, standingOrder.markAlreadyBooked] := by
    decide +kernel
  have hswapped := horder none [1, 0] (.swap 0 1 [])
  refine ⟨(hone [standingOrder.id, purchase.id] (.swap _ _ [])).1 (by decide), hreviewed,
    (hother "c".toList).2 (by decide), hswapped.trans ?_⟩
  rw [Draft.reorder, hreviewed]
  rfl

/-- Without entries, nothing is asked for one by one, and the account is not detected. -/
theorem not_classify_oneByOne : ¬ ∀ (contacts : List Contact) (accounts : List Account)
    (plans : List SavingsPlan) (securities : List Security) (prior : List PriorMovement)
    (k : Classifier) (d : Draft) (ids : List EntityId),
    Classifier.ofReference contacts accounts plans securities prior = .ok k →
    (d.entries.map (·.id)).Nodup → ids.Perm (d.entries.map (·.id)) →
    d.classifiedBy (ids.map fun id => (k, some id)) = k.classify none d := by
  intro hall
  have hempty := hall contacts [account] [] [] [rent] classifier
    { originalFileName := "umsatz.csv".toList } [] classifier_eq .nil .nil
  exact absurd (congrArg Draft.detectedAccountId hempty) (by decide +kernel)

end Household

end BankStatement
