import BankStatement.Matching.Duplicates
import BankStatement.Proofs.Calendar.Order
import BankStatement.Proofs.Decimal.Value

/-!
# Looking for duplicates

The window of a draft leaves out the prior movements from before its first day, and keeps keys in
place of movements. Neither hides a duplicate: no dated entry of the draft comes before the first
day, and keys are equal exactly when date, numeric amount and folded subject are
(`DuplicateKey.of_eq_iff`). So looking an entry up in the window is looking for it among all prior
movements (`contains_forEntries`).

`Entry.Repeats` is what the look-up is compared with. It speaks of an entry and a movement only, and
says nothing about a window or about the other entries of the draft. An entry without a date repeats
nothing, and a movement of no account counts for every draft.

A window is kept as a list of keys without repeats, so how many movements an entry repeats is lost
in it. Nothing asks for that: one is enough for a duplicate.
-/

namespace BankStatement

/-- An entry of a draft repeats a prior movement: same day, same amount, same subject up to case,
and the movement belongs to the account of the draft or to none. -/
structure Entry.Repeats (account : Option EntityId) (e : Entry) (p : PriorMovement) : Prop where
  date : e.bookingDate = some p.bookingDate
  amount : e.amount.value = p.amount.value
  subject : Text.fold (e.subject.getD []) = Text.fold p.subject
  account : p.accountId = none ∨ p.accountId = account

theorem DuplicateKey.of_eq_iff {date date' : Date} {amount amount' : Decimal}
    {subject subject' : Text} :
    DuplicateKey.of date amount subject = DuplicateKey.of date' amount' subject'
      ↔ date = date' ∧ amount.value = amount'.value ∧ Text.fold subject = Text.fold subject' := by
  simp only [DuplicateKey.of, DuplicateKey.mk.injEq, Decimal.canonical_eq_iff]

namespace DuplicateWindow

variable {prior : List PriorMovement} {entries : List Entry} {account : Option EntityId} {e : Entry}

theorem concerns_iff {p : PriorMovement} :
    concerns account p = true ↔ p.accountId = none ∨ p.accountId = account := by
  unfold concerns
  split
  next h => simp [h]
  next id h =>
    rw [h, beq_iff_eq]
    exact ⟨fun h => .inr h.symm, fun h => h.elim nofun Eq.symm⟩

theorem mem_keys_build {day : Date} {key : DuplicateKey} :
    key ∈ (build prior (some day) account).keys
      ↔ ∃ p ∈ prior, p.bookingDate.isBefore day = false
        ∧ (p.accountId = none ∨ p.accountId = account)
        ∧ DuplicateKey.of p.bookingDate p.amount p.subject = key := by
  simp only [build, List.mem_eraseDups, List.mem_map, List.mem_filter, Bool.and_eq_true,
    Bool.not_eq_true', concerns_iff, and_assoc]

/-- Every dated entry of a draft lies in the window of the draft. -/
theorem exists_since {date : Date} (he : e ∈ entries) (hdate : e.bookingDate = some date) :
    ∃ day, Date.earliest? (entries.filterMap (·.bookingDate)) = some day
      ∧ date.isBefore day = false := by
  have hmem : date ∈ entries.filterMap (·.bookingDate) := List.mem_filterMap.mpr ⟨e, he, hdate⟩
  cases hday : Date.earliest? (entries.filterMap (·.bookingDate)) with
  | none =>
      rw [Date.earliest?_eq_none_iff.mp hday] at hmem
      exact absurd hmem List.not_mem_nil
  | some day => exact ⟨day, rfl, (Date.earliest?_eq_some_iff.mp hday).2 date hmem⟩

/-- The window of a draft finds what a look at all prior movements finds. The entry has to be one of
the draft, for the window begins with the first day of its entries. -/
theorem contains_forEntries (he : e ∈ entries) :
    (forEntries prior entries account).contains e = true ↔ ∃ p ∈ prior, e.Repeats account p := by
  unfold contains
  split
  next hdate =>
    refine ⟨nofun, fun ⟨p, _, hp⟩ => ?_⟩
    rw [hp.date] at hdate
    cases hdate
  next date hdate =>
    obtain ⟨day, hday, hsince⟩ := exists_since he hdate
    rw [forEntries, hday, List.contains_iff_mem, mem_keys_build]
    constructor
    · rintro ⟨p, hp, -, haccount, hkey⟩
      obtain ⟨rfl, hamount, hsubject⟩ := DuplicateKey.of_eq_iff.mp hkey
      exact ⟨p, hp, hdate, hamount.symm, hsubject.symm, haccount⟩
    · rintro ⟨p, hp, hrepeats⟩
      obtain rfl := Option.some.inj (hdate.symm.trans hrepeats.date)
      exact ⟨p, hp, hsince, hrepeats.account,
        DuplicateKey.of_eq_iff.mpr ⟨rfl, hrepeats.amount.symm, hrepeats.subject.symm⟩⟩

end DuplicateWindow

end BankStatement
