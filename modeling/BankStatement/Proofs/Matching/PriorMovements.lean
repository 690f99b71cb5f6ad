import BankStatement.Proofs.Matching.Independence
import BankStatement.Proofs.Matching.Reimport

/-!
# More movements in the books

The prior movements reach classification through the window of duplicates alone: account, contacts,
plans and securities are found without them (`findings_withPrior`). A window over more movements
contains more entries (`contains_windowOf_withPrior`), and an entry that it contains is marked
before anything else is looked for. So a review with more movements in the books is the review
without them, except for the entries that the additional movements make duplicates
(`review_withPrior`).

That more movements contain more entries needs the window to be taken as
`Proofs.Matching.DuplicateScan` does, as a look at all movements. The window itself begins with a
day and drops what comes before it, so it could seem to depend on which movements there are; it
depends on the entries of the draft, which are the same on both sides.

Nothing is said about fewer movements. An entry that has been marked as a duplicate is not reopened
when the movement that it repeats is gone from the books.
-/

namespace BankStatement

namespace Classifier

/-- The classifier with other movements in the books. -/
def withPrior (k : Classifier) (prior : List PriorMovement) : Classifier :=
  { k with priorMovements := prior }

variable {k : Classifier} {prior : List PriorMovement} {only : Option EntityId} {d : Draft}
  {e : Entry}

/-! ## What does not depend on the books -/

theorem accountOf_withPrior : (k.withPrior prior).accountOf d = k.accountOf d := rfl

theorem findings_withPrior (account : Option Account) (e : Entry) :
    (k.withPrior prior).findings account e = k.findings account e := rfl

/-- Where two windows agree on an entry, it does not matter which movements they are from, and no
other part of a classifier looks at movements. -/
theorem classifyEntry_withPrior {w w' : DuplicateWindow} (h : w'.contains e = w.contains e)
    (account : Option Account) :
    (k.withPrior prior).classifyEntry w' account e = k.classifyEntry w account e := by
  rw [classifyEntry_eq, classifyEntry_eq, h, findings_withPrior]

/-! ## What does -/

theorem contains_windowOf_withPrior (hprior : k.priorMovements ⊆ prior) (he : e ∈ d.entries)
    (h : (k.windowOf d).contains e = true) :
    ((k.withPrior prior).windowOf d).contains e = true := by
  rw [contains_windowOf he] at h ⊢
  obtain ⟨p, hp, hrepeats⟩ := h
  exact ⟨p, hprior hp, hrepeats⟩

/-- What becomes of an entry that the window contains: status and mark are written, nothing else. -/
theorem review_of_contains (h : (k.windowOf d).contains e = true) :
    k.review d e = { e with
      status := .alreadyBooked
      isCostNeutral := (k.review d e).isCostNeutral } := by
  rw [review, classifyEntry_eq, if_pos h]
  unfold Entry.reopened
  split <;> rfl

/-- A review with more movements in the books is the one without them, unless they make the entry a
duplicate that it is not without them. -/
theorem review_withPrior (hprior : k.priorMovements ⊆ prior) (he : e ∈ d.entries) :
    (k.withPrior prior).review d e = k.review d e
      ∨ ((k.windowOf d).contains e = false
        ∧ ((k.withPrior prior).windowOf d).contains e = true) := by
  by_cases hfirst : (k.windowOf d).contains e = true
  · left
    have hsecond := contains_windowOf_withPrior hprior he hfirst
    exact classifyEntry_withPrior (hsecond.trans hfirst.symm) _
  · rw [Bool.not_eq_true] at hfirst
    by_cases hsecond : ((k.withPrior prior).windowOf d).contains e = true
    · exact .inr ⟨hfirst, hsecond⟩
    · rw [Bool.not_eq_true] at hsecond
      exact .inl (classifyEntry_withPrior (hsecond.trans hfirst.symm) _)

/-- More movements in the books act through the marks of duplicates only. A draft is found to be of
the same account, and an entry is left as it is left without them or, where they make it a
duplicate, as it was before but for the mark and the cost. What is a duplicate without them is one
with them. -/
theorem classify_withPrior (k : Classifier) (prior : List PriorMovement)
    (hprior : k.priorMovements ⊆ prior) (only : Option EntityId) (d : Draft) :
    (k.withPrior prior).classify only d
        = { k.classify only d with entries := ((k.withPrior prior).classify only d).entries }
      ∧ List.Forall₂
        (fun (before : Entry × Entry) second =>
          let (e, first) := before
          (second = first
            ∨ (second = { e with
                  status := .alreadyBooked
                  isCostNeutral := second.isCostNeutral }
              ∧ (k.windowOf d).contains e = false
              ∧ ((k.withPrior prior).windowOf d).contains e = true))
          ∧ (asksFor only e = true → (k.windowOf d).contains e = true →
            first.status = .alreadyBooked ∧ second = first
              ∧ ((k.withPrior prior).windowOf d).contains e = true))
        (d.entries.zip (k.classify only d).entries)
        ((k.withPrior prior).classify only d).entries := by
  refine ⟨?_, ?_⟩
  · rw [classify_eq, classify_eq, accountOf_withPrior]
  · have hzip : d.entries.zip (d.entries.map (k.reviewFor only d))
        = d.entries.map fun e => (e, k.reviewFor only d e) := List.map_prod_left_eq_zip.symm
    rw [entries_classify, entries_classify, hzip, List.forall₂_map_left_iff,
      List.forall₂_map_right_iff, List.forall₂_same]
    intro e he
    show (_ ∨ _) ∧ _
    unfold reviewFor
    by_cases hasked : asksFor only e = true
    · rw [if_pos hasked, if_pos hasked]
      refine ⟨?_, fun _ hfirst => ?_⟩
      · rcases review_withPrior hprior he with hsame | ⟨hfirst, hsecond⟩
        · exact .inl hsame
        · exact .inr ⟨review_of_contains hsecond, hfirst, hsecond⟩
      · have hsecond := contains_windowOf_withPrior hprior he hfirst
        refine ⟨?_, ?_, hsecond⟩
        · rw [review_of_contains hfirst]
        · rcases review_withPrior hprior he with hsame | ⟨hnot, -⟩
          · exact hsame
          · rw [hfirst] at hnot
            cases hnot
    · rw [if_neg hasked, if_neg hasked]
      exact ⟨.inl rfl, fun hyes => absurd hyes hasked⟩

end Classifier

namespace Household

def bookedPurchase : PriorMovement where
  bookingDate := rentDay
  amount := ⟨true, 1999, -2⟩

theorem subset_bookedPurchase : classifier.priorMovements ⊆ [rent, bookedPurchase] := by
  intro p hp
  rw [List.mem_singleton.mp hp]
  exact List.mem_cons_self

theorem classify_withPrior_purchase :
    classifier.priorMovements ⊆ [rent, bookedPurchase]
      ∧ (classifier.classify none expenses).entries
        = [purchase.linkContact service.id, standingOrder.markAlreadyBooked]
      ∧ (classifier.withPrior [rent, bookedPurchase]).classify none expenses
        = { classifier.classify none expenses with
          entries := [purchase.markAlreadyBooked, standingOrder.markAlreadyBooked] } := by
  have hentries : ((classifier.withPrior [rent, bookedPurchase]).classify none expenses).entries
      = [purchase.markAlreadyBooked, standingOrder.markAlreadyBooked] := by
    decide +kernel
  refine ⟨subset_bookedPurchase, by decide +kernel, ?_⟩
  rw [← hentries]
  exact (Classifier.classify_withPrior classifier [rent, bookedPurchase] subset_bookedPurchase none
    expenses).1

end Household

end BankStatement
