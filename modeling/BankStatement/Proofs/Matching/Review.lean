import BankStatement.Proofs.Calendar.Order
import BankStatement.Proofs.Matching.Findings

/-!
# Drafts under review

Classifying a draft detects its account, builds the window of duplicates from all of its entries,
and then treats every entry on its own: with account and window fixed, `Classifier.review` is a
function of the entry alone, and `classify_eq` says that a call applies it to the entries it is
asked for.

Account and window come from the whole draft, and the account is written into the draft by the first
call. Still no call changes what another one reviews by (`review_classify`): a detected account
stays detected, and the days of the entries are not touched. So a run of calls reviews the entries
it is asked for, once (`classifiedBy_eq`).

A run of calls may use a different classifier in every call, since reference data change between two
looks at a draft (`Draft.classifiedBy`). The last statement is about one classifier, and there what
counts is how often an entry is asked for. An entry that is asked for twice must not mind to be
reviewed twice, and whether it does is left to the modules about classification: `Bears` says for an
entry and a list of calls that it is asked for at most once or does not mind. Different ids are one
reason for this, classifying again without effect is another.
-/

namespace BankStatement

/-- The draft after some calls, each with reference data of its own and for all entries or those of
one id. -/
def Draft.classifiedBy (d : Draft) (calls : List (Classifier × Option EntityId)) : Draft :=
  calls.foldl (fun d call => call.1.classify call.2 d) d

namespace Classifier

variable {k : Classifier} {only : Option EntityId} {d d' : Draft} {e : Entry}

/-- The account of a draft, whether it has been detected before or is detected now. -/
def accountOf (k : Classifier) (d : Draft) : Option EntityId :=
  d.detectedAccountId.or ((k.accountNamed? d.accountName).map (·.id))

/-- The prior movements that the entries of a draft are checked against. -/
def windowOf (k : Classifier) (d : Draft) : DuplicateWindow :=
  DuplicateWindow.forEntries k.priorMovements d.entries (k.accountOf d)

def review (k : Classifier) (d : Draft) (e : Entry) : Entry :=
  k.classifyEntry (k.windowOf d) (k.account? (k.accountOf d)) e

def asksFor (only : Option EntityId) (e : Entry) : Bool := only.all (· == e.id)

def reviewFor (k : Classifier) (only : Option EntityId) (d : Draft) (e : Entry) : Entry :=
  if asksFor only e then k.review d e else e

theorem detectAccount_eq (k : Classifier) (d : Draft) :
    k.detectAccount d = { d with detectedAccountId := k.accountOf d } := by
  unfold detectAccount accountOf
  split
  next h => rw [h]; cases d; cases h; rfl
  next h => rw [h, Option.none_or]

/-- A call reviews the entries it is asked for and leaves the others alone. -/
theorem classify_eq (k : Classifier) (only : Option EntityId) (d : Draft) :
    k.classify only d = { d with
      detectedAccountId := k.accountOf d
      entries := d.entries.map (k.reviewFor only d) } := by
  unfold classify
  rw [detectAccount_eq]
  rfl

theorem entries_classify : (k.classify only d).entries = d.entries.map (k.reviewFor only d) := by
  rw [classify_eq]

theorem detectedAccountId_classify : (k.classify only d).detectedAccountId = k.accountOf d := by
  rw [classify_eq]

/-! ## What calls do not change -/

theorem bare_review : (k.review d e).bare = e.bare := bare_classifyEntry

theorem bare_reviewFor : (k.reviewFor only d e).bare = e.bare := by
  unfold reviewFor
  split
  · exact bare_review
  · rfl

theorem accountOf_classify : k.accountOf (k.classify only d) = k.accountOf d := by
  rw [classify_eq]
  simp only [accountOf]
  rw [Option.or_assoc, Option.or_self]

/-- Two drafts of the same account with entries on the same days are reviewed alike. The days are
compared as a set, so entries may be in another order or change in everything else. -/
theorem review_congr (haccount : k.accountOf d' = k.accountOf d)
    (hdays : ∀ day, day ∈ d'.entries.filterMap (·.bookingDate)
      ↔ day ∈ d.entries.filterMap (·.bookingDate)) :
    k.review d' = k.review d := by
  have hwindow : k.windowOf d' = k.windowOf d := by
    rw [windowOf, windowOf, haccount, DuplicateWindow.forEntries, DuplicateWindow.forEntries,
      Date.earliest?_congr hdays]
  funext e
  rw [review, review, hwindow, haccount]

theorem bookingDates_classify : (k.classify only d).entries.filterMap (·.bookingDate)
    = d.entries.filterMap (·.bookingDate) := by
  rw [entries_classify, List.filterMap_map]
  have hdate : (·.bookingDate) ∘ k.reviewFor only d = (·.bookingDate) := by
    funext e
    exact Entry.eq_of_bare Entry.bookingDate (fun _ => rfl) bare_reviewFor
  rw [hdate]

/-- A call does not change what later calls review by. -/
theorem review_classify : k.review (k.classify only d) = k.review d :=
  review_congr accountOf_classify fun day => by rw [bookingDates_classify]

/-! ## Runs of calls -/

theorem asksFor_congr (h : e'.bare = e.bare) (only : Option EntityId) :
    asksFor only e' = asksFor only e :=
  Entry.eq_of_bare (asksFor only) (fun _ => rfl) h

/-- An entry does not mind how often it is reviewed, or it is reviewed at most once. -/
def Bears (k : Classifier) (d : Draft) (calls : List (Option EntityId)) (e : Entry) : Prop :=
  k.review d (k.review d e) = k.review d e ∨ calls.countP (asksFor · e) ≤ 1

variable {calls : List (Option EntityId)}

theorem bears_reviewFor (h : k.Bears d (only :: calls) e) :
    k.Bears d calls (k.reviewFor only d e) := by
  rcases h with hsame | hcount
  · refine .inl ?_
    unfold reviewFor
    split
    · rw [hsame, hsame]
    · exact hsame
  · refine .inr (Nat.le_trans ?_ hcount)
    simp only [asksFor_congr bare_reviewFor]
    rw [List.countP_cons]
    exact Nat.le_add_right ..

/-- Reviewing for one call and then for the others is reviewing for all of them, which is the step
of the induction on the calls. -/
theorem review_later (h : k.Bears d (only :: calls) e) :
    (if calls.any (asksFor · (k.reviewFor only d e)) then k.review d (k.reviewFor only d e)
      else k.reviewFor only d e)
      = if (only :: calls).any (asksFor · e) then k.review d e else e := by
  simp only [asksFor_congr bare_reviewFor, List.any_cons]
  unfold reviewFor
  by_cases hfirst : asksFor only e = true
  · by_cases hlater : calls.any (asksFor · e) = true
    · -- asked for now and later, so it is not the count that makes the entry bear the calls
      have htwice : 1 < (only :: calls).countP (asksFor · e) := by
        have hpos : 0 < calls.countP (asksFor · e) :=
          List.countP_pos_iff.mpr (List.any_eq_true.mp hlater)
        rw [List.countP_cons, if_pos hfirst]
        omega
      simpa [hfirst, hlater] using h.resolve_right (Nat.not_le_of_lt htwice)
    · simp [hfirst, hlater]
  · simp [hfirst]

/-- Calls with the same reference data review, once, the entries that some of them ask for. -/
theorem classifiedBy_eq (k : Classifier) (calls : List (Option EntityId)) (d : Draft)
    (h : ∀ e ∈ d.entries, k.Bears d calls e) :
    d.classifiedBy (calls.map (k, ·)) = { d with
      detectedAccountId := if calls = [] then d.detectedAccountId else k.accountOf d
      entries := d.entries.map fun e => if calls.any (asksFor · e) then k.review d e else e } := by
  induction calls generalizing d with
  | nil => simp [Draft.classifiedBy]
  | cons only calls ih =>
    have hrest : ∀ e ∈ (k.classify only d).entries, k.Bears (k.classify only d) calls e := by
      intro e he
      rw [entries_classify] at he
      obtain ⟨e, hmem, rfl⟩ := List.mem_map.mp he
      unfold Bears
      rw [review_classify]
      exact bears_reviewFor (h e hmem)
    have hstep : d.classifiedBy ((only :: calls).map (k, ·))
        = (k.classify only d).classifiedBy (calls.map (k, ·)) := rfl
    have hentries : ∀ e ∈ d.entries, _ := fun e he => review_later (h e he)
    rw [hstep, ih _ hrest, review_classify, accountOf_classify, detectedAccountId_classify,
      ite_self, entries_classify, List.map_map]
    rw [classify_eq, if_neg (List.cons_ne_nil only calls), ← List.map_congr_left hentries]
    rfl

end Classifier

/-! ## A household

Reference data to look at classification with: one account, its bank, a payment service, and the
rent of a month, which is in the books. -/

namespace Household

def holder : Contact where
  id := "me".toList
  name := "Max Mustermann".toList
  kind := .self

def bank : Contact where
  id := "ing".toList
  name := "ING".toList
  kind := .bank

def service : Contact where
  id := "paypal".toList
  name := "PayPal".toList
  isIntermediary := true

def contacts : List Contact := [holder, bank, service]

def account : Account where
  id := "giro".toList
  name := "Girokonto".toList
  bankContactId := some bank.id

def rentDay : Date := ⟨2024, 5, 2, by decide⟩

def rent : PriorMovement where
  bookingDate := rentDay
  amount := ⟨true, 50000, -2⟩
  subject := "Miete".toList

def classifier : Classifier where
  contacts := contacts
  selfContact := holder
  accounts := [account]
  savingsPlans := []
  securities := []
  priorMovements := [rent]

theorem classifier_eq :
    Classifier.ofReference contacts [account] [] [] [rent] = .ok classifier := by
  simp [Classifier.ofReference, contacts, classifier, holder]

end Household

end BankStatement
