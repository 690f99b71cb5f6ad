import BankStatement.Proofs.Matching.Review

/-!
# Classifying again

Classification takes decisions back before it decides anew, but not those about duplicates, and it
takes no link away except that of a security. A second call on the same draft still changes nothing
(`classify_classify`): an entry is searched with the contact that the first call has linked, which
finds the same, and recording the same over again only restores what has been taken back
(`Entry.record_reopened_record`).

One state would be in the way, a duplicate that is cost neutral: if it is a duplicate no longer, it
keeps the mark in the first call and loses it in the second. Such an entry never comes up
(`Draft.notNeutralIfBooked_classifiedBy`).

Taking decisions back is where the two calls differ. In the first one a decided entry is reopened to
the status it began with, in the second one it is reopened from what the first has recorded. What
recording leaves out is a status that findings do not decide and a cost that they do not touch; both
are as reopening leaves them, so the second reopening gives the first one back up to what is
recorded anyway.

A duplicate is not reopened at all. One that is still contained in the window is marked again as it
was, and one that is not is searched like every other entry, if it is not announced, and stays a
duplicate where the findings decide nothing.
-/

namespace BankStatement

/-- A duplicate is not cost neutral. -/
def Entry.NotNeutralIfBooked (e : Entry) : Prop :=
  e.status = .alreadyBooked → e.isCostNeutral = false

instance (e : Entry) : Decidable e.NotNeutralIfBooked :=
  inferInstanceAs (Decidable (e.status = .alreadyBooked → e.isCostNeutral = false))

def Draft.NotNeutralIfBooked (d : Draft) : Prop := ∀ e ∈ d.entries, e.NotNeutralIfBooked

instance (d : Draft) : Decidable d.NotNeutralIfBooked :=
  inferInstanceAs (Decidable (∀ e ∈ d.entries, e.NotNeutralIfBooked))

namespace Entry

variable {e : Entry} {f : Findings}

theorem initialStatus_ne (isAnnounced : Bool) : initialStatus isAnnounced ≠ .alreadyBooked := by
  cases isAnnounced <;> nofun

theorem reopened_of_booked (h : e.status = .alreadyBooked) : e.reopened = e := if_pos h

theorem reopened_of_not_booked (h : e.status ≠ .alreadyBooked) : e.reopened = e.resetOpen :=
  if_neg h

theorem reopened_reopened : e.reopened.reopened = e.reopened := by
  by_cases h : e.status = .alreadyBooked
  · rw [reopened_of_booked h, reopened_of_booked h]
  · rw [reopened_of_not_booked h]
    exact reopened_of_not_booked (initialStatus_ne _)

theorem isCostNeutral_reopened (he : e.NotNeutralIfBooked) : e.reopened.isCostNeutral = false := by
  by_cases h : e.status = .alreadyBooked
  · rw [reopened_of_booked h, he h]
  · rw [reopened_of_not_booked h]
    rfl

theorem status_reopened : e.reopened.status = .alreadyBooked
    ∨ e.reopened.status = initialStatus e.reopened.isAnnounced := by
  by_cases h : e.status = .alreadyBooked
  · exact .inl (by rw [reopened_of_booked h, h])
  · exact .inr (by rw [reopened_of_not_booked h]; rfl)

/-! ## Recording again -/

/-- Where findings leave a duplicate one, they have decided nothing, so nobody accounts for it and
it has been a duplicate before. -/
theorem verdict_of_booked (h : (e.record f).status = .alreadyBooked) :
    f.verdict = none ∧ f.attribution.isAccounted = false ∧ e.status = .alreadyBooked := by
  rw [record_status] at h
  rcases f.verdict_cases with hv | ⟨hv, -⟩ | ⟨hv, haccounted⟩
  · rw [hv] at h
    cases h
  · rw [hv] at h
    cases h
  · rw [hv] at h
    exact ⟨hv, haccounted, h⟩

theorem record_record : (e.record f).record f = e.record f := by
  have hstatus : f.verdict.getD (e.record f).status = f.verdict.getD e.status := by
    rw [record_status]
    cases f.verdict <;> rfl
  have hcost : (f.attribution.isOwn || (e.record f).isCostNeutral)
      = (f.attribution.isOwn || e.isCostNeutral) := by
    rw [record_isCostNeutral, ← Bool.or_assoc, Bool.or_self]
  exact record_decided_record hstatus hcost

/-- An entry that had been reopened and is reopened after recording is the same again after the same
record: what reopening takes back, recording had either not touched or decides again. -/
theorem record_reopened_record (hcost : e.isCostNeutral = false)
    (hstatus : e.status = .alreadyBooked ∨ e.status = initialStatus e.isAnnounced) :
    (e.record f).reopened.record f = e.record f := by
  by_cases hbooked : (e.record f).status = .alreadyBooked
  · rw [reopened_of_booked hbooked, record_record]
  · rw [reopened_of_not_booked hbooked]
    have hannounced : (e.record f).isAnnounced = e.isAnnounced :=
      eq_of_bare Entry.isAnnounced (fun _ => rfl) bare_record
    have hagain : f.verdict.getD (initialStatus (e.record f).isAnnounced)
        = f.verdict.getD e.status := by
      rw [record_status] at hbooked
      cases hv : f.verdict with
      | some status => rfl
      | none =>
        rw [hv] at hbooked
        rw [hannounced]
        exact (hstatus.resolve_left hbooked).symm
    exact record_decided_record hagain (by rw [hcost])

end Entry

namespace Classifier

variable {k : Classifier} {only : Option EntityId} {d : Draft} {w : DuplicateWindow}
  {account : Option Account} {e : Entry}

/-! ## One entry -/

theorem classifyEntry_classifyEntry (he : e.NotNeutralIfBooked) :
    k.classifyEntry w account (k.classifyEntry w account e) = k.classifyEntry w account e := by
  have hwindow : w.contains (k.classifyEntry w account e) = w.contains e :=
    contains_congr bare_classifyEntry
  have hannounced : (k.classifyEntry w account e).isAnnounced = e.isAnnounced :=
    Entry.eq_of_bare Entry.isAnnounced (fun _ => rfl) bare_classifyEntry
  rw [classifyEntry_eq k w account (k.classifyEntry w account e), hwindow, hannounced]
  rw [classifyEntry_eq k w account e]
  cases w.contains e with
  | true =>
    simp only [if_true]
    rw [Entry.reopened_of_booked (e := e.reopened.markAlreadyBooked) rfl]
    rfl
  | false =>
    cases e.isAnnounced with
    | true => exact Entry.reopened_reopened
    | false =>
      simp only [Bool.false_eq_true, if_false]
      have hfound : k.findings account (e.reopened.record (k.findings account e))
          = k.findings account e := by
        rw [← findings_reopened (e := e)]
        exact findings_record
      rw [hfound]
      exact Entry.record_reopened_record (Entry.isCostNeutral_reopened he) Entry.status_reopened

theorem notNeutralIfBooked_classifyEntry (he : e.NotNeutralIfBooked) :
    (k.classifyEntry w account e).NotNeutralIfBooked := by
  have hcost := Entry.isCostNeutral_reopened he
  rw [classifyEntry_eq]
  split
  · exact fun _ => hcost
  · split
    · exact fun _ => hcost
    · intro hbooked
      obtain ⟨-, haccounted, -⟩ := Entry.verdict_of_booked hbooked
      rw [Entry.record_isCostNeutral, Attribution.isOwn_of_not_accounted haccounted, hcost]
      rfl

/-! ## Drafts -/

theorem reviewFor_reviewFor (he : e.NotNeutralIfBooked) :
    k.reviewFor only d (k.reviewFor only d e) = k.reviewFor only d e := by
  unfold reviewFor
  by_cases hasked : asksFor only e = true
  · rw [if_pos hasked, asksFor_congr bare_review, if_pos hasked]
    exact classifyEntry_classifyEntry he
  · rw [if_neg hasked, if_neg hasked]

theorem reviewFor_classify : k.reviewFor only (k.classify only d) = k.reviewFor only d := by
  funext e
  rw [reviewFor, reviewFor, review_classify]

theorem notNeutralIfBooked_classify (hd : d.NotNeutralIfBooked) :
    (k.classify only d).NotNeutralIfBooked := by
  intro e he
  rw [entries_classify] at he
  obtain ⟨e, hmem, rfl⟩ := List.mem_map.mp he
  unfold reviewFor
  split
  · exact notNeutralIfBooked_classifyEntry (hd e hmem)
  · exact hd e hmem

end Classifier

namespace Draft

theorem notNeutralIfBooked_classifiedBy {d : Draft} (hd : d.NotNeutralIfBooked)
    (calls : List (Classifier × Option EntityId)) : (d.classifiedBy calls).NotNeutralIfBooked := by
  induction calls generalizing d with
  | nil => exact hd
  | cons call calls ih => exact ih (Classifier.notNeutralIfBooked_classify hd)

theorem notNeutralIfBooked_ofStatement (newId : Nat → EntityId) (fileName : Text) (s : Statement) :
    (ofStatement newId fileName s).NotNeutralIfBooked := by
  intro e he
  obtain ⟨⟨m, i⟩, -, rfl⟩ := List.mem_map.mp he
  exact fun _ => rfl

end Draft

namespace Classifier

/-- A second call on the same draft changes nothing, unless a duplicate in it is cost neutral. No
call makes one so, and in a draft of a statement none is, whatever calls it has been through. -/
theorem classify_classify (k : Classifier) :
    (∀ only d, Draft.NotNeutralIfBooked d →
        k.classify only (k.classify only d) = k.classify only d
          ∧ (k.classify only d).NotNeutralIfBooked)
      ∧ ∀ newId fileName s calls,
        ((Draft.ofStatement newId fileName s).classifiedBy calls).NotNeutralIfBooked := by
  refine ⟨fun only d hd => ⟨?_, notNeutralIfBooked_classify hd⟩, fun newId fileName s calls => ?_⟩
  · have hentries : (d.entries.map (k.reviewFor only d)).map (k.reviewFor only d)
        = d.entries.map (k.reviewFor only d) := by
      rw [List.map_map]
      exact List.map_congr_left fun e he => reviewFor_reviewFor (hd e he)
    rw [classify_eq k only (k.classify only d), reviewFor_classify, accountOf_classify,
      entries_classify, hentries, classify_eq]
  · exact Draft.notNeutralIfBooked_classifiedBy
      (Draft.notNeutralIfBooked_ofStatement newId fileName s) calls

end Classifier

namespace Household

/-- A transfer to oneself that was a duplicate, of a movement that is not in the books any more. -/
def transfer : Entry where
  id := "e0".toList
  bookingDate := some rentDay
  amount := ⟨true, 1000, -2⟩
  counterparty := some "Max Mustermann".toList
  status := .alreadyBooked

def transfers : Draft where
  originalFileName := "umsatz.csv".toList
  entries := [transfer]

theorem classify_classify_transfer :
    (classifier.classify none transfers).entries
        = [(transfer.markAccounted holder.id).markCostNeutral true]
      ∧ classifier.classify none (classifier.classify none transfers)
        = classifier.classify none transfers :=
  ⟨by decide +kernel, ((Classifier.classify_classify classifier).1 none transfers (by decide)).1⟩

end Household

end BankStatement
