import BankStatement.Proofs.Matching.DuplicateScan
import BankStatement.Proofs.Matching.Links

/-!
# Importing a statement again

An entry becomes a duplicate exactly when it repeats one of the prior movements, and once it is one
nothing else is decided about it. So a statement that is in the books already is recognized entry by
entry, and nothing of it is booked twice (`alreadyBooked_iff_repeats`).

The statement has two parts. The first is about any draft and any call: which of the entries that
the call is asked for are made duplicates. Entries that are duplicates before are left out of it,
since they can stay so without repeating anything. The second part is about a statement of which all
that is dated is in the books. Every entry of its draft is then a duplicate or, if it has no date,
announced; that movements without a date are previews is asked of the statement, as templates read
them so.

`HasBooked` asks for a movement for each entry and not for as many movements as entries. Two equal
entries of a statement are both duplicates of a single movement, since none is used up by the first.
-/

namespace BankStatement

namespace Classifier

variable {k : Classifier} {only : Option EntityId} {d : Draft} {w : DuplicateWindow}
  {account : Option Account} {e : Entry}

/-! ## One entry -/

theorem classifyEntry_of_contains (he : e.IsNew) (h : w.contains e = true) :
    k.classifyEntry w account e = e.markAlreadyBooked := by
  rw [classifyEntry_eq, if_pos h, he.reopened_eq]

/-- No stage but the look for duplicates makes an entry one. The searches decide on other statuses,
and reopening only takes decisions back. -/
theorem status_classifyEntry_iff (he : e.status ≠ .alreadyBooked) :
    (k.classifyEntry w account e).status = .alreadyBooked ↔ w.contains e = true := by
  have hopen : e.reopened.status ≠ .alreadyBooked := by
    rw [Entry.reopened_of_not_booked he]
    exact Entry.initialStatus_ne _
  rw [classifyEntry_eq]
  split
  next h => simp [h, Entry.markAlreadyBooked]
  next h =>
    split
    · simp [hopen, h]
    · refine ⟨fun hbooked => ?_, fun hcontains => absurd hcontains h⟩
      exact absurd (Entry.verdict_of_booked hbooked).2.2 hopen

theorem status_of_announced (he : e.IsNew) (h : e.isAnnounced = true) :
    (k.classifyEntry w account e).status = .alreadyBooked
      ∨ (k.classifyEntry w account e).status = .announced := by
  rw [classifyEntry_eq, he.reopened_eq, if_pos h]
  split
  · exact .inl rfl
  · rw [he.status, h]
    exact .inr rfl

/-! ## Drafts -/

theorem contains_windowOf (he : e ∈ d.entries) :
    (k.windowOf d).contains e = true ↔ ∃ p ∈ k.priorMovements, e.Repeats (k.accountOf d) p :=
  DuplicateWindow.contains_forEntries he

theorem status_review_iff (he : e ∈ d.entries) (hstatus : e.status ≠ .alreadyBooked) :
    (k.review d e).status = .alreadyBooked
      ↔ ∃ p ∈ k.priorMovements, e.Repeats (k.accountOf d) p :=
  (status_classifyEntry_iff hstatus).trans (contains_windowOf he)

/-- All dated entries of the draft repeat prior movements. -/
def HasBooked (k : Classifier) (d : Draft) : Prop :=
  ∀ e ∈ d.entries, e.bookingDate.isSome = true →
    ∃ p ∈ k.priorMovements, e.Repeats (k.accountOf d) p

theorem review_of_hasBooked (h : k.HasBooked d) (he : e ∈ d.entries) (hnew : e.IsNew)
    (hdate : e.bookingDate.isSome = true) : k.review d e = e.markAlreadyBooked :=
  classifyEntry_of_contains hnew ((contains_windowOf he).mpr (h e he hdate))

theorem announced_of_undated {newId : Nat → EntityId} {fileName : Text} {s : Statement}
    (hs : ∀ m ∈ s.movements, m.bookingDate = none → m.isPreview = true)
    (he : e ∈ (Draft.ofStatement newId fileName s).entries)
    (hdate : ¬ e.bookingDate.isSome = true) : e.isAnnounced = true := by
  obtain ⟨⟨m, i⟩, hmem, rfl⟩ := List.mem_map.mp he
  have hm : m ∈ s.movements := (List.mem_zipIdx' hmem).2 ▸ List.getElem_mem _
  exact hs m hm (Option.not_isSome_iff_eq_none.mp hdate)

/-- A call makes an entry that it is asked for a duplicate exactly when the entry repeats a prior
movement; from when the movement is, in relation to the draft, does not matter. If all that is dated
in a statement is in the books, all of it is found to be, and nothing is accounted for. -/
theorem alreadyBooked_iff_repeats (k : Classifier) :
    (∀ only d, List.Forall₂
        (fun e e' => asksFor only e = true → e.status ≠ .alreadyBooked →
          (e'.status = .alreadyBooked
            ↔ ∃ p ∈ k.priorMovements, e.Repeats (k.classify only d).detectedAccountId p))
        d.entries (k.classify only d).entries)
      ∧ ∀ newId fileName s, k.HasBooked (Draft.ofStatement newId fileName s) →
        List.Forall₂ (fun e e' => e.bookingDate.isSome = true → e' = e.markAlreadyBooked)
            (Draft.ofStatement newId fileName s).entries
            (k.classify none (Draft.ofStatement newId fileName s)).entries
          ∧ ((∀ m ∈ s.movements, m.bookingDate = none → m.isPreview = true) →
            ∀ e ∈ (k.classify none (Draft.ofStatement newId fileName s)).entries,
              e.status = .alreadyBooked ∨ e.status = .announced) := by
  refine ⟨fun only d => ?_, fun newId fileName s hbooked => ⟨?_, fun hs e' he' => ?_⟩⟩
  · rw [entries_classify, detectedAccountId_classify, List.forall₂_map_right_iff, List.forall₂_same]
    intro e he hasked hstatus
    rw [reviewFor, if_pos hasked]
    exact status_review_iff he hstatus
  · rw [entries_classify, List.forall₂_map_right_iff, List.forall₂_same]
    exact fun e he => review_of_hasBooked hbooked he (isNew_ofStatement he)
  · rw [entries_classify] at he'
    obtain ⟨e, he, rfl⟩ := List.mem_map.mp he'
    have hnew := isNew_ofStatement he
    have hreview : k.reviewFor none (Draft.ofStatement newId fileName s) e
      = k.review (Draft.ofStatement newId fileName s) e := rfl
    rw [hreview]
    by_cases hdate : e.bookingDate.isSome = true
    · rw [review_of_hasBooked hbooked he hnew hdate]
      exact .inl rfl
    · exact status_of_announced hnew (announced_of_undated hs he hdate)

end Classifier

namespace Household

/-- The rent, and the rent of next month announced. -/
def rents : Statement where
  header := {}
  movements := [
    { bookingDate := some rentDay, amount := ⟨true, 500, 0⟩, subject := some "MIETE".toList,
      counterparty := some "Max Mustermann".toList },
    { amount := ⟨true, 500, 0⟩, subject := some "Miete".toList, isPreview := true }]

def rentsDraft : Draft :=
  .ofStatement (fun i => [Char.ofNat (i + 97)]) "umsatz.csv".toList rents

theorem repeats_rent : (rentsDraft.entries.head (by decide)).Repeats (some account.id) rent where
  date := rfl
  amount := Decimal.canonical_eq_iff.mp (by decide)
  subject := by decide +kernel
  account := .inl rfl

theorem hasBooked_rents : classifier.HasBooked rentsDraft := by
  intro e he hdate
  rcases List.mem_cons.mp he with rfl | he
  · exact ⟨rent, List.mem_singleton.mpr rfl, repeats_rent⟩
  · obtain rfl := List.mem_singleton.mp he
    cases hdate

theorem alreadyBooked_iff_repeats_rents :
    (classifier.classify none rentsDraft).entries.map (·.status) = [.alreadyBooked, .announced]
      ∧ (∃ p ∈ [rent], (rentsDraft.entries.head (by decide)).Repeats (some account.id) p)
      ∧ ∀ e ∈ (classifier.classify none rentsDraft).entries,
        e.status = .alreadyBooked ∨ e.status = .announced := by
  obtain ⟨hscan, hreimport⟩ := Classifier.alreadyBooked_iff_repeats classifier
  refine ⟨by decide +kernel, ?_, (hreimport _ _ rents hasBooked_rents).2 (by decide)⟩
  have haccount : (classifier.classify none rentsDraft).detectedAccountId = some account.id := by
    decide +kernel
  rw [← haccount]
  cases hscan none rentsDraft with
  | cons hrent _ => exact (hrent rfl (by decide)).mp (by decide +kernel)

end Household

end BankStatement
