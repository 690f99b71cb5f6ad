import BankStatement.Proofs.Reading.Assigning
import BankStatement.Proofs.Reading.GermanPatterns
import BankStatement.Proofs.Session.Folding
import BankStatement.Proofs.Session.Records
import BankStatement.Template.Bundled.Wuestenrot

/-!
# Movements of Wüstenrot statements

A movement of a Wüstenrot statement is a booking line and the lines behind it that name the
counterparty. The rule for these lines looks for printable ASCII characters and takes the first run
of them, wherever it stands in the line, and two lines with such a run are taken.

Main statement: whatever has been read before, a booking line begins its movement, the lines behind
it bring the counterparty that their first runs make, and nothing else changes the movement until it
is given out (`feedAll_bookingLine`). Where the first two lines are printable ASCII that is these
lines as they stand, but a line with an umlaut is cut off there.

The statement begins behind any lines that bring a session to the table, since which movement is
held and how far the header has come are left open there. For the template it is enough to know that
the session is `InTable`, and every line keeps that up: a booking line (`feed_booking`), a line of
the counterparty before and after the second one (`feed_first_run`, `feed_second_run`), a line
without a run (`feed_without_run`) and a line with nothing held (`feed_idle`). The movement is given
out by the second line with a run, by the next booking line, at the end of the table or with the
file (`feed_closing`, `finish_inTable`), so the main statement counts what is given out and what is
held together.

A line of the counterparty is one that the rule for booking lines does not find. What it is made of
does not matter beyond that: whatever runs it has, only the first is taken.
-/

namespace BankStatement.WuestenrotStatement

open Pattern Pattern.Node Pattern.German
open Text (Blanks Trimmed)

/-! ## The rules of the table -/

def booking : Pattern := Pattern.ofLiteral Bundled.wuestenrotBooking

def counterparty : Pattern := Pattern.ofLiteral Bundled.wuestenrotCounterparty

def bookingRule : Rule :=
  { pattern := booking, multiplier := 1, role := .primary, maxOccurrence := none }

def counterpartyRule : Rule :=
  { pattern := counterparty, multiplier := 1, role := .additional, maxOccurrence := some 2 }

theorem pattern_bookingRule : bookingRule.pattern = booking := by simp only [bookingRule]

theorem pattern_counterpartyRule : counterpartyRule.pattern = counterparty := by
  simp only [counterpartyRule]

theorem primary_rules : Bundled.wuestenrotTable.rulesOf .primary = [bookingRule] := rfl

theorem additional_rules : Bundled.wuestenrotTable.rulesOf .additional = [counterpartyRule] := rfl

theorem correct_wuestenrot (t : Text) : Bundled.wuestenrot.correct t = .ok t := rfl

/-! ## Booking lines -/

/-- An amount with a sign in front that may stand apart. -/
def price : Node :=
  .seq (.times (.char '-') 0 (some 1) true)
    (.seq (.times (.oneOf false [.named .blank false]) 0 (some 1) true) unsigned)

theorem booking_eq : booking = {
    source := Bundled.wuestenrotBooking.toList
    node := .seq (.group 1 date) (.seq gap (.seq (.group 2 (.times .anyChar 1 none false))
      (.seq gap (.seq (.group 3 date) (.seq gap (.group 4 price))))))
    names := [("PostingDate".toList, 1), ("PostingDescription".toList, 2),
      ("ValutaDate".toList, 3), ("Amount".toList, 4)] } := by
  decide +kernel

theorem exists_price_reads : ∃ A, price.Reads false A ∧ ¬ A [] := by
  have hsign : (Node.times (.char '-') 0 (some 1) true).Reads false _ :=
    (oneChar_char '-').reads_times (by simp) true
  have hblank : (Node.times (.oneOf false [.named .blank false]) 0 (some 1) true).Reads false _ :=
    oneChar_blank.reads_times (by simp) true
  refine ⟨_, hsign.seq (hblank.seq unsigned_reads), ?_⟩
  rintro ⟨u, _, -, ⟨v, _, -, ⟨a, -, rfl⟩, rfl⟩, h⟩
  simp [GermanAmount.unsigned] at h

/-- Every group of a booking line takes some text. So no value of a record is empty for want of a
match, and each is read by its own notation. -/
theorem exists_groups {line : Text} {found : Match} (h : booking.search? line = some found) :
    ∃ day posting valuta amount, day ≠ [] ∧ posting ≠ [] ∧ valuta ≠ [] ∧ amount ≠ []
      ∧ found = ⟨[(4, amount), (3, valuta), (2, posting), (1, day)]⟩ := by
  obtain ⟨A, hprice, hA⟩ := exists_price_reads
  have hposting : (Node.times .anyChar 1 none false).Reads false _ :=
    (oneChar_anyChar false).reads_times (by simp) false
  have hcaptures := (date_reads.group 1).seq (gap_reads.captures.seq ((hposting.group 2).seq
    (gap_reads.captures.seq ((date_reads.group 3).seq
      (gap_reads.captures.seq (hprice.group 4))))))
  have hdate {w : Text} (hw : IsDateShape w) : w ≠ [] :=
    List.ne_nil_of_length_pos (by rw [hw.length]; decide)
  -- the groups of a match are words of their nodes, and none of these reads the empty word
  obtain ⟨_, day, _, _, _, ⟨hday, rfl⟩, ⟨_, _, _, _, ⟨-, rfl⟩, ⟨posting, _, _, _, ⟨hposting, rfl⟩,
    ⟨_, _, _, _, ⟨-, rfl⟩, ⟨valuta, _, _, _, ⟨hvaluta, rfl⟩, ⟨_, amount, _, _, ⟨-, rfl⟩,
      ⟨hamount, rfl⟩, -, rfl⟩, -, rfl⟩, -, rfl⟩, -, rfl⟩, -, rfl⟩, -, hgroups⟩ :=
    hcaptures.of_search? (by rw [booking_eq]) (by rw [booking_eq]) h
  refine ⟨day, posting, valuta, amount, hdate hday, List.ne_nil_of_length_pos hposting.2.1,
    hdate hvaluta, fun hnil => hA (hnil ▸ hamount), ?_⟩
  cases found
  exact congrArg Match.mk hgroups

/-- A booking line tells a movement: its dates, its posting text and its amount are what the groups
of the match are read as. -/
def Tells (today : Date) (line : Text) (m : Movement) : Prop :=
  ∃ day posting valuta amount d v a,
    booking.search? line = some ⟨[(4, amount), (3, valuta), (2, posting), (1, day)]⟩
      ∧ Bundled.wuestenrot.readDate MovementVariable.bookingDate.label (some day) = .ok d
      ∧ Bundled.wuestenrot.readDate MovementVariable.valutaDate.label (some valuta) = .ok v
      ∧ Bundled.wuestenrot.readAmount MovementVariable.amount.label (some amount) = .ok a
      ∧ m = {
        bookingDate := some d
        valutaDate := some v
        amount := a
        postingDescription := some (Text.strip posting)
        isPreview := today.isBefore d }

variable {today : Date} {line : Text} {m : Movement}

theorem Tells.isError (h : Tells today line m) : m.isError = false := by
  obtain ⟨-, -, -, -, d, v, a, -, -, -, -, rfl⟩ := h
  rfl

theorem Tells.bookingDate (h : Tells today line m) : m.bookingDate.isSome = true := by
  obtain ⟨-, -, -, -, d, v, a, -, -, -, -, rfl⟩ := h
  rfl

theorem Tells.counterparty (h : Tells today line m) : m.counterparty = none := by
  obtain ⟨-, -, -, -, d, v, a, -, -, -, -, rfl⟩ := h
  rfl

theorem readRecord_of_tells (h : Tells today line m) (header : Header) :
    Bundled.wuestenrotTable.readRecord Bundled.wuestenrot today false line header
      = (header, .ok (some m)) := by
  obtain ⟨day, posting, valuta, amount, d, v, a, hfound, hd, hv, ha, rfl⟩ := h
  obtain ⟨_, _, _, _, hday, hposting, hvaluta, hamount, hgroups⟩ := exists_groups hfound
  cases hgroups
  have hnamed : booking.namedGroups ⟨[(4, amount), (3, valuta), (2, posting), (1, day)]⟩
      = [(MovementVariable.bookingDate.label, some day),
        (MovementVariable.postingDescription.label, some posting),
        (MovementVariable.valutaDate.label, some valuta),
        (MovementVariable.amount.label, some amount)] := by
    rw [namedGroups, booking_eq]
    rfl
  have happly : bookingRule.apply Bundled.wuestenrot line .always ⟨header, some {}⟩
      = (⟨header, some {
          bookingDate := some d
          valutaDate := some v
          amount := a
          postingDescription := some (Text.strip posting) }⟩, .ok true) := by
    rw [← pattern_bookingRule] at hfound
    refine Rule.apply_of_found hfound ?_
    rw [pattern_bookingRule, hnamed, Rule.assignGroups_cons hday (placesIn_label _)
        (Movement.assign_bookingDate_of hd),
      Rule.assignGroups_cons hposting (placesIn_label _)
        (Movement.assign_postingDescription_of (correct_wuestenrot _)),
      Rule.assignGroups_cons hvaluta (placesIn_label _) (Movement.assign_valutaDate_of hv),
      Rule.assignGroups_cons hamount (placesIn_label _) (Movement.assign_amount_of ha)]
    -- reading has rounded the amount already, so the multiplier changes nothing
    have hone : a * Decimal.ofInt bookingRule.multiplier = a := Template.mul_one_of_readAmount ha
    rw [hone]
    rfl
  rw [Section.readRecord_of_apply rfl rfl primary_rules happly, Option.bind_some,
    Movement.finished?_of_bookingDate rfl]

theorem readRecord_of_not_found (h : booking.search? line = none) (today : Date) (header : Header) :
    Bundled.wuestenrotTable.readRecord Bundled.wuestenrot today false line header
      = (header, .ok none) := by
  have happly : bookingRule.apply Bundled.wuestenrot line .always ⟨header, some {}⟩
      = (⟨header, some {}⟩, .ok false) := by
    simp only [Rule.apply, pattern_bookingRule, h]
  rw [Section.readRecord_of_apply rfl rfl primary_rules happly]
  rfl

/-! ## Lines of the counterparty -/

/-- The characters that the rule for the counterparty takes, printable ASCII. -/
def isPrintable (c : Char) : Bool := decide (' ' ≤ c) && decide (c ≤ '~')

theorem counterparty_eq : counterparty = {
    source := Bundled.wuestenrotCounterparty.toList
    node := .group 1 (.times (.oneOf false [.range ' ' '~']) 1 none true)
    names := [("SourceName".toList, 1)] } := by
  decide +kernel

theorem oneChar_printable : (Node.oneOf false [.range ' ' '~']).OneChar false isPrintable := by
  have haccepts : (fun c => [SetItem.range ' ' '~'].any (·.holds false c) != false)
      = isPrintable := by
    funext c
    simp [SetItem.holds, isPrintable]
  rw [← haccepts]
  exact oneChar_oneOf false false _

theorem search_counterparty (line : Text) :
    counterparty.search? line = (firstRun? isPrintable line).map fun run => ⟨[(1, run)]⟩ :=
  search?_run (by rw [counterparty_eq]) (by rw [counterparty_eq]) oneChar_printable line

def grown (old : Option Text) (run : Text) : Text :=
  Text.strip (old.getD [] ++ ' ' :: Text.strip run)

variable {header : Header}

theorem apply_of_no_run (h : firstRun? isPrintable line = none) (target : Target) :
    counterpartyRule.apply Bundled.wuestenrot line .always target = (target, .ok false) := by
  simp only [Rule.apply, pattern_counterpartyRule, search_counterparty, h, Option.map_none]

theorem apply_of_run {run : Text} (h : firstRun? isPrintable line = some run) (m : Movement) :
    counterpartyRule.apply Bundled.wuestenrot line .always ⟨header, some m⟩
      = (⟨header, some { m with counterparty := some (grown m.counterparty run) }⟩, .ok true) := by
  have hfound : counterpartyRule.pattern.search? line = some ⟨[(1, run)]⟩ := by
    rw [pattern_counterpartyRule, search_counterparty, h, Option.map_some]
  have hnamed : counterparty.namedGroups ⟨[(1, run)]⟩
      = [(MovementVariable.counterparty.label, some run)] := by
    rw [namedGroups, counterparty_eq]
    rfl
  refine Rule.apply_of_found hfound ?_
  rw [pattern_counterpartyRule, hnamed,
    Rule.assignGroups_cons (ne_nil_of_firstRun? h) (placesIn_label _)
      (Movement.assign_counterparty_of (correct_wuestenrot _))]
  rfl

/-! ## Sessions in the table -/

structure InTable (today : Date) (s : Session) : Prop where
  template_eq : s.template = Bundled.wuestenrot
  today_eq : s.today = today
  current_eq : s.current = some Bundled.wuestenrotTable
  stage_eq : s.stage = .table
  entered_eq : s.entered = 3
  held_readable : ∀ m ∈ s.held, m.isError = false

variable {s : Session}

theorem InTable.holding (hs : InTable today s) (held : Option Movement)
    (hheld : ∀ m ∈ held, m.isError = false) (foldCount lineNo : Nat) :
    InTable today { s with held, foldCount, lineNo } :=
  ⟨hs.template_eq, hs.today_eq, hs.current_eq, hs.stage_eq, hs.entered_eq, hheld⟩

theorem InTable.next (hs : InTable today s) : InTable today { s with lineNo := s.lineNo + 1 } :=
  hs.holding s.held hs.held_readable s.foldCount (s.lineNo + 1)

/-- A line of the table: without its line end, not blank, and not one that ends the table. -/
structure IsRow (line : Text) : Prop where
  noEnd : Session.trimLineEnd line = line
  full : Text.isBlankText line = false
  inside : Bundled.wuestenrotTable.endsAt line = false

/-- A line of the table that the rule for booking lines does not find. -/
structure IsContinuation (line : Text) : Prop extends IsRow line where
  notFound : booking.search? line = none

theorem feed_row {t : Session} (m? : Option Movement) (hs : InTable today s) (hrow : IsRow line)
    (hfold : ({ s with lineNo := s.lineNo + 1 } : Session).foldLine {} Bundled.wuestenrotTable line
      = (t, .ok m?)) (hm : ∀ m ∈ m?, m.isError = false) :
    s.feed (some {}) line = (t, .ok m?.toList) :=
  Session.feed_of_foldLine hs.stage_eq hs.current_eq rfl hrow.noEnd hrow.full hrow.inside hfold hm

theorem foldLine_booking (hs : InTable today s) (h : Tells today line m) :
    s.foldLine {} Bundled.wuestenrotTable line
      = ({ s with held := some m, foldCount := 0 }, .ok s.held) := by
  refine Session.foldLine_complete ?_ h.isError ?_
  · rw [hs.template_eq, hs.today_eq]
    exact readRecord_of_tells h _
  · simp [Continuation.isComplete, h.bookingDate]

theorem feed_booking (hs : InTable today s) (hrow : IsRow line) (h : Tells today line m) :
    s.feed (some {}) line
      = ({ s with lineNo := s.lineNo + 1, held := some m, foldCount := 0 }, .ok s.held.toList) :=
  feed_row s.held hs hrow (foldLine_booking hs.next h) hs.held_readable

theorem parse_continuation (hs : InTable today s) (hk : IsContinuation line) :
    s.parse (some {}) Bundled.wuestenrotTable line = (s.header, .ok none) := by
  rw [Session.parse, hs.template_eq]
  exact readRecord_of_not_found hk.notFound _ _

theorem feed_idle (hs : InTable today s) (hk : IsContinuation line) (hheld : s.held = none) :
    s.feed (some {}) line = ({ s with lineNo := s.lineNo + 1 }, .ok []) := by
  refine feed_row none hs hk.toIsRow ?_ (by simp)
  exact Session.foldLine_passes hheld
    (parse_continuation hs.next hk)

/-- A line of the counterparty is tried on the held movement, since no record was read of it and the
session has a policy of continuation lines. -/
theorem foldLine_continuation (hs : InTable today s) (hk : IsContinuation line)
    (hheld : s.held = some m) :
    s.foldLine {} Bundled.wuestenrotTable line = Session.foldRules line [counterpartyRule] s := by
  rw [Session.foldLine_of_continues hheld (parse_continuation hs hk) (by rintro _ ⟨⟩)
    (Section.ignores_of_no_keywords rfl line), additional_rules]

theorem feed_without_run (hs : InTable today s) (hk : IsContinuation line) (hheld : s.held = some m)
    (hrun : firstRun? isPrintable line = none) :
    s.feed (some {}) line = ({ s with lineNo := s.lineNo + 1 }, .ok []) := by
  refine feed_row none hs hk.toIsRow ?_ (by simp)
  rw [foldLine_continuation hs.next hk hheld]
  refine Session.foldRules_of_notFound ?_
  rw [hs.template_eq]
  exact apply_of_no_run hrun _

theorem apply_held {run : Text} (hs : InTable today s) (hheld : s.held = some m)
    (hrun : firstRun? isPrintable line = some run) :
    counterpartyRule.apply s.template line .always ⟨s.header, s.held⟩
      = (⟨s.header, some { m with counterparty := some (grown m.counterparty run) }⟩,
        .ok true) := by
  rw [hs.template_eq, hheld]
  exact apply_of_run hrun m

/-- The first line of the counterparty is added to the held movement, which stays held: the count of
matches is below the bound of the rule. -/
theorem feed_first_run {run : Text} (hs : InTable today s) (hk : IsContinuation line)
    (hheld : s.held = some m) (hcount : s.foldCount = 0)
    (hrun : firstRun? isPrintable line = some run) :
    s.feed (some {}) line = ({ s with
      held := some { m with counterparty := some (grown m.counterparty run) }
      foldCount := 1
      lineNo := s.lineNo + 1 }, .ok []) := by
  have hs' := hs.next
  refine feed_row none hs hk.toIsRow ?_ (by simp)
  rw [foldLine_continuation hs' hk hheld,
    Session.foldRules_of_found (apply_held hs' hheld hrun) (by rw [hcount]; rfl)]
  simp only [hcount]

/-- The second line is added as well, and with it the movement is given out. Lines behind it find
nothing held and are passed over. -/
theorem feed_second_run {run : Text} (hs : InTable today s) (hk : IsContinuation line)
    (hheld : s.held = some m) (hcount : s.foldCount = 1)
    (hrun : firstRun? isPrintable line = some run) :
    s.feed (some {}) line = ({ s with held := none, foldCount := 0, lineNo := s.lineNo + 1 },
      .ok [{ m with counterparty := some (grown m.counterparty run) }]) := by
  have hs' := hs.next
  refine feed_row (some { m with counterparty := some (grown m.counterparty run) }) hs hk.toIsRow
    ?_ ?_
  · rw [foldLine_continuation hs' hk hheld,
      Session.foldRules_of_spent (apply_held hs' hheld hrun) (by rw [hcount]; rfl)]
  · rintro _ ⟨⟩
    exact hs.held_readable m hheld

/-! ## The counterparty -/

/-- A counterparty after some more texts. -/
def grownBy (old : Option Text) (runs : List Text) : Option Text :=
  runs.foldl (fun old run => some (grown old run)) old

/-- The counterparty that lines bring: the first run of printable ASCII of each, as far as there is
one, of two lines at most. -/
def counterpartyOf (lines : List Text) : Option Text :=
  grownBy none ((lines.filterMap (firstRun? isPrintable)).take 2)

def wholeLines (lines : List Text) : Option Text :=
  match lines.take 2 with
  | [] => none
  | first => some (Text.joinWith [' '] (first.map Text.strip))

theorem grown_none (run : Text) : grown none run = Text.strip run := Text.strip_blank_cons run

theorem grown_some {old run : Text} (hold : ¬ Blanks old) (hrun : ¬ Blanks run) :
    grown (some (Text.strip old)) run = Text.strip old ++ ' ' :: Text.strip run := by
  have hne {t : Text} (ht : ¬ Blanks t) : Text.strip t ≠ [] := fun h =>
    ht (Text.strip_eq_nil_iff.mp h)
  exact Text.strip_of_trimmed
    ((Text.trimmed_strip old).append (Text.trimmed_strip run) (hne hold) (hne hrun) [' '])

/-- Lines of printable ASCII are taken as they stand: each is a single run, and trimming leaves the
same of it as of the line. -/
theorem counterpartyOf_eq_wholeLines {lines : List Text} (hrow : ∀ line ∈ lines, IsRow line)
    (h : ∀ line ∈ lines.take 2, ∀ c ∈ line, isPrintable c = true) :
    counterpartyOf lines = wholeLines lines := by
  have hfull {line : Text} (hrow : IsRow line) : ¬ Blanks line := fun hblank => by
    have hblank' := Text.isBlankText_iff.mpr hblank
    rw [hrow.full] at hblank'
    cases hblank'
  have hrun {line : Text} (hrow : IsRow line) (h : ∀ c ∈ line, isPrintable c = true) :
      firstRun? isPrintable line = some line :=
    firstRun?_of_all h fun hnil => hfull hrow (hnil ▸ Text.blanks_nil)
  -- what stands behind the second line does not count
  match lines with
  | [] => rfl
  | [first] =>
      simp only [List.take, List.forall_mem_singleton] at hrow h
      simp [counterpartyOf, wholeLines, grownBy, hrun hrow h, grown_none, Text.joinWith]
  | first :: second :: more =>
      obtain ⟨hfirst, hrest⟩ := List.forall_mem_cons.mp hrow
      obtain ⟨hsecond, -⟩ := List.forall_mem_cons.mp hrest
      have h₁ := h first (by simp)
      have h₂ := h second (by simp)
      simp only [counterpartyOf, wholeLines, grownBy, List.filterMap_cons_some (hrun hfirst h₁),
        List.filterMap_cons_some (hrun hsecond h₂), List.take, List.foldl_cons, List.foldl_nil,
        grown_none, grown_some (hfull hfirst) (hfull hsecond)]
      simp [Text.joinWith, List.intercalate]

/-! ## Runs -/

variable {lines : List Text}

theorem feedAll_idle (hs : InTable today s) (hlines : ∀ line ∈ lines, IsContinuation line)
    (hheld : s.held = none) :
    ∃ t, s.feedAll (some {}) lines = .ok (t, []) ∧ InTable today t ∧ t.header = s.header
      ∧ t.held = none := by
  induction lines generalizing s with
  | nil => exact ⟨s, rfl, hs, rfl, hheld⟩
  | cons line lines ih =>
      obtain ⟨hline, hlines⟩ := List.forall_mem_cons.mp hlines
      obtain ⟨t, hfeed, ht, hheader, hnone⟩ :=
        ih hs.next hlines hheld
      refine ⟨t, ?_, ht, hheader, hnone⟩
      rw [Session.feedAll_cons lines (feed_idle hs hline hheld), hfeed]
      rfl

/-- Lines of the counterparty grow the held movement as long as there are some left to take. The
number of lines left counts down to the bound of the rule, and the induction is on the lines with
it. -/
theorem feedAll_continuations {left : Nat} (hs : InTable today s)
    (hlines : ∀ line ∈ lines, IsContinuation line) (hheld : s.held = some m)
    (hleft : s.foldCount + left = 2) (hpos : 0 < left) :
    ∃ t given, s.feedAll (some {}) lines = .ok (t, given) ∧ InTable today t ∧ t.header = s.header
      ∧ given ++ t.held.toList = [{ m with
        counterparty := grownBy m.counterparty
          ((lines.filterMap (firstRun? isPrintable)).take left) }] := by
  -- `left` counts the runs that the rule may still take
  induction lines generalizing s m left with
  | nil => exact ⟨s, [], rfl, hs, rfl, by simp [hheld, grownBy]⟩
  | cons line lines ih =>
      obtain ⟨hline, hlines⟩ := List.forall_mem_cons.mp hlines
      have hm : m.isError = false := hs.held_readable m hheld
      cases hrun : firstRun? isPrintable line with
      | none =>
          obtain ⟨t, given, hfeed, ht, hheader, hgiven⟩ :=
            ih hs.next hlines hheld hleft hpos
          refine ⟨t, given, ?_, ht, hheader, ?_⟩
          · rw [Session.feedAll_cons lines (feed_without_run hs hline hheld hrun), hfeed]
            rfl
          · rw [List.filterMap_cons_none hrun, hgiven]
      | some run =>
          rw [List.filterMap_cons_some hrun]
          obtain ⟨rfl, hcount⟩ | ⟨rfl, hcount⟩ :
              left = 2 ∧ s.foldCount = 0 ∨ left = 1 ∧ s.foldCount = 1 := by omega
          · obtain ⟨t, given, hfeed, ht, hheader, hgiven⟩ := ih
              (hs.holding (some { m with counterparty := some (grown m.counterparty run) })
                (by rintro _ ⟨⟩; exact hm) 1 (s.lineNo + 1)) hlines rfl (show 1 + 1 = 2 from rfl)
              (by decide)
            refine ⟨t, given, ?_, ht, hheader, hgiven⟩
            rw [Session.feedAll_cons lines (feed_first_run hs hline hheld hcount hrun), hfeed]
            rfl
          · -- the second run gives the movement out, and the lines behind it find none to grow
            obtain ⟨t, hfeed, ht, hheader, hnone⟩ := feedAll_idle
              (hs.holding none (by simp) 0 (s.lineNo + 1)) hlines rfl
            refine ⟨t, [{ m with counterparty := some (grown m.counterparty run) }], ?_, ht,
              hheader, ?_⟩
            · rw [Session.feedAll_cons lines (feed_second_run hs hline hheld hcount hrun), hfeed]
              rfl
            · rw [hnone]
              rfl

/-! ## Where the table begins and ends -/

/-- Whatever has been read before, a session that reads a table reads the table of movements. -/
theorem inTable_of_feedAll {before : List Text} {given : List Movement}
    (h : (Session.start Bundled.wuestenrot today).feedAll (some {}) before = .ok (s, given))
    (hst : s.stage = .table) : InTable today s := by
  have htemplate : s.template = Bundled.wuestenrot := Session.feedAll_template h
  have htidy := Session.tidy_feedAll (Session.tidy_start (some {}) Bundled.wuestenrot today) h
  have hplaced := Session.placed_feedAll (Session.placed_start Bundled.wuestenrot today) h
  cases hcur : s.current with
  | none => rcases hplaced.idle hcur with hst' | hst' <;> rw [hst] at hst' <;> cases hst'
  | some sec =>
      obtain ⟨i, hentered, hsec⟩ := hplaced.current_eq sec hcur
      have hkind : sec.kind = .table := by
        have hfits := htidy.stage_fits sec hcur
        rwa [hst] at hfits
      -- the table is the third section, and the others are of other kinds
      have hthird : i = 2 ∧ sec = Bundled.wuestenrotTable := by
        rw [htemplate] at hsec
        match i, hsec with
        | 0, hsec | 1, hsec | 3, hsec => cases hsec; cases hkind
        | 2, hsec => cases hsec; exact ⟨rfl, rfl⟩
      obtain ⟨rfl, rfl⟩ := hthird
      exact ⟨htemplate, Session.feedAll_today h, hcur, hst, hentered, htidy.held_readable⟩

/-- A line with which the table ends or another movement begins. -/
def Closes (today : Date) (line : Text) : Prop :=
  Session.trimLineEnd line = line ∧ (Text.isBlankText line = true
    ∨ Bundled.wuestenrotTable.endsAt line = true ∨ ∃ m, Tells today line m)

/-- A line that is handed on goes to the section behind the table, which passes it over. -/
theorem passOn_blockEnd (hfull : Text.isBlankText line = false) (given : List Movement)
    (s : Session) :
    ∃ t, Session.passOn (some {}) line [.skip "BlockEnd" []] given s = (t, .ok given) := by
  refine ⟨s.enter (.skip "BlockEnd" []), ?_⟩
  have hvisit : (s.enter (.skip "BlockEnd" [])).visit (some {}) (.skip "BlockEnd" []) line
      = (s.enter (.skip "BlockEnd" []), .ok ⟨[], true⟩) := by
    show (if Text.isBlankText line = true then _ else
      if (Section.skip "BlockEnd" []).endsAt line = true then _ else _) = _
    rw [hfull, Section.endsAt_of_no_keywords rfl]
    rfl
  simp only [Session.passOn, hvisit, if_true, List.append_nil]

theorem readLine_closing (hs : InTable today s)
    (hends : Text.isBlankText line = true ∨ Bundled.wuestenrotTable.endsAt line = true) :
    ∃ t, s.readLine (some {}) line = (t, .ok s.held.toList) := by
  have hread := (Session.readLine_of_section (some {}) line (by simp [hs.stage_eq])
    hs.current_eq).1
  rw [hread, Session.visit_of_closing hs.stage_eq hs.current_eq rfl hends]
  cases hblank : Text.isBlankText line with
  | true => exact ⟨_, rfl⟩
  | false =>
      have hup : (({ s with held := none, foldCount := 0 } : Session).leave).upcoming
          = [.skip "BlockEnd" []] := by
        simp only [Session.upcoming, Session.leave, hs.template_eq, hs.entered_eq]
        rfl
      simp only [hup, Bool.false_eq_true, if_false]
      exact passOn_blockEnd hblank s.held.toList _

theorem feed_closing (hs : InTable today s) (h : Closes today line) :
    ∃ t, s.feed (some {}) line = (t, .ok s.held.toList) := by
  obtain ⟨hline, h⟩ := h
  -- a booking line that ends the table begins no movement, so the end of the table comes first
  by_cases hends : Text.isBlankText line = true ∨ Bundled.wuestenrotTable.endsAt line = true
  · rw [Session.feed, hline]
    exact readLine_closing hs.next hends
  · obtain ⟨hfull, hinside⟩ := not_or.mp hends
    obtain ⟨m, hm⟩ := (h.resolve_left hfull).resolve_left hinside
    exact ⟨_, feed_booking hs ⟨hline, by simpa using hfull, by simpa using hinside⟩ hm⟩

theorem finish_inTable (hs : InTable today s) : s.finish (some {})
    = (({ s with held := none, foldCount := 0 } : Session).leave, s.held.toList) := by
  rw [Session.finish, hs.stage_eq]
  exact Session.endTable_of_keeps hs.current_eq rfl

/-! ## A booking line and its counterparty -/

/-- A session that has left the block in front of the table enters it with the next line. -/
theorem feed_entering (htemplate : s.template = Bundled.wuestenrot) (htoday : s.today = today)
    (hst : s.stage = .between) (hentered : s.entered = 2) (hheld : s.held = none)
    (hrow : IsRow line) (hm : Tells today line m) :
    ∃ t, s.feed (some {}) line = (t, .ok []) ∧ InTable today t ∧ t.held = some m ∧ t.foldCount = 0
      ∧ t.header = s.header := by
  have hin : InTable today
      (({ s with lineNo := s.lineNo + 1 } : Session).enter Bundled.wuestenrotTable) :=
    ⟨htemplate, htoday, rfl, rfl, congrArg (· + 1) hentered,
      by simp [Session.enter, hheld]⟩
  have hvisit := Session.visit_of_foldLine hin.stage_eq hin.current_eq rfl hrow.full hrow.inside
    (foldLine_booking hin hm) hin.held_readable
  have hup : ({ s with lineNo := s.lineNo + 1 } : Session).upcoming
      = [Bundled.wuestenrotTable, .skip "BlockEnd" []] := by
    simp only [Session.upcoming, htemplate, hentered]
    rfl
  have hread := (Session.readLine_of_between (s := { s with lineNo := s.lineNo + 1 }) (some {}) line
    hst).1
  refine ⟨_, ?_, hin.holding (some m) (by rintro _ ⟨⟩; exact hm.isError) 0 (s.lineNo + 1), rfl, rfl,
    rfl⟩
  rw [Session.feed, hrow.noEnd, hread, hup, Session.passOn, hvisit]
  simp only [Session.enter, hheld]
  rfl

/-- Whatever has been read before, a booking line begins its movement. -/
theorem feed_begins {before : List Text} {given : List Movement}
    (hbefore : (Session.start Bundled.wuestenrot today).feedAll (some {}) before = .ok (s, given))
    (hst : s.stage = .table ∨ s.stage = .between ∧ s.entered = 2) (hrow : IsRow line)
    (hm : Tells today line m) :
    ∃ t, s.feed (some {}) line = (t, .ok s.held.toList) ∧ InTable today t ∧ t.held = some m
      ∧ t.foldCount = 0 ∧ t.header = s.header := by
  rcases hst with hst | ⟨hst, hentered⟩
  · have hs := inTable_of_feedAll hbefore hst
    exact ⟨_, feed_booking hs hrow hm,
      hs.holding (some m) (by rintro _ ⟨⟩; exact hm.isError) 0 (s.lineNo + 1), rfl, rfl, rfl⟩
  · have htidy := Session.tidy_feedAll (Session.tidy_start (some {}) Bundled.wuestenrot today)
      hbefore
    have hheld := htidy.held_eq_none (by simp [hst])
    rw [hheld]
    exact feed_entering (Session.feedAll_template hbefore) (Session.feedAll_today hbefore) hst
      hentered hheld hrow hm

section Booking

variable {before : List Text} {given : List Movement}

theorem feedAll_begins
    (hbefore : (Session.start Bundled.wuestenrot today).feedAll (some {}) before = .ok (s, given))
    (hst : s.stage = .table ∨ s.stage = .between ∧ s.entered = 2) (hrow : IsRow line)
    (hm : Tells today line m) (hlines : ∀ line ∈ lines, IsContinuation line) :
    ∃ t own, s.feedAll (some {}) (line :: lines) = .ok (t, own) ∧ InTable today t
      ∧ t.header = s.header
      ∧ own ++ t.held.toList
        = s.held.toList ++ [{ m with counterparty := counterpartyOf lines }] := by
  obtain ⟨u, hfeed, hu, hheld, hcount, hheader⟩ := feed_begins hbefore hst hrow hm
  obtain ⟨t, own, hrest, ht, hheader', hown⟩ := feedAll_continuations hu hlines hheld
    (show u.foldCount + 2 = 2 by rw [hcount]) (by decide)
  refine ⟨t, s.held.toList ++ own, ?_, ht, hheader'.trans hheader, ?_⟩
  · rw [Session.feedAll_cons lines hfeed, hrest]
    rfl
  · rw [List.append_assoc, hown, hm.counterparty]
    rfl

theorem run_begins
    (hbefore : (Session.start Bundled.wuestenrot today).feedAll (some {}) before = .ok (s, given))
    (hst : s.stage = .table ∨ s.stage = .between ∧ s.entered = 2) (hrow : IsRow line)
    (hm : Tells today line m) (hlines : ∀ line ∈ lines, IsContinuation line) :
    Bundled.wuestenrot.run (some {}) today (before ++ line :: lines)
      = .ok ⟨s.header, given ++ (s.held.toList
        ++ [{ m with counterparty := counterpartyOf lines }])⟩ := by
  obtain ⟨t, own, hall, ht, hheader, hown⟩ := feedAll_begins hbefore hst hrow hm hlines
  rw [Template.run, Session.feedAll_append _ hbefore, hall, ← hown]
  simp only [Except.map, finish_inTable ht]
  simp [Session.leave, hheader]

/-- Whatever has been read before, a booking line begins a movement, and the lines behind it grow
its counterparty and change nothing else. Together with what is held at last, they give out what was
held before and this movement. What is held is given out at the end of the statement, at the end of
the table and by the next booking line. Where the first two lines are printable ASCII, the
counterparty is these lines as they stand. -/
theorem feedAll_bookingLine
    (hbefore : (Session.start Bundled.wuestenrot today).feedAll (some {}) before = .ok (s, given))
    (hst : s.stage = .table ∨ s.stage = .between ∧ s.entered = 2) (hrow : IsRow line)
    (hm : Tells today line m) (hlines : ∀ line ∈ lines, IsContinuation line) :
    (∃ t own, s.feedAll (some {}) (line :: lines) = .ok (t, own)
        ∧ own ++ t.held.toList = s.held.toList ++ [{ m with counterparty := counterpartyOf lines }]
        ∧ ∀ line, Closes today line → ∃ u, t.feed (some {}) line = (u, .ok t.held.toList))
      ∧ Bundled.wuestenrot.run (some {}) today (before ++ line :: lines)
        = .ok ⟨s.header, given ++ (s.held.toList
          ++ [{ m with counterparty := counterpartyOf lines }])⟩
      ∧ ((∀ line ∈ lines.take 2, ∀ c ∈ line, isPrintable c = true) →
        counterpartyOf lines = wholeLines lines) := by
  obtain ⟨t, own, hall, ht, -, hown⟩ := feedAll_begins hbefore hst hrow hm hlines
  exact ⟨⟨t, own, hall, hown, fun line h => feed_closing ht h⟩,
    run_begins hbefore hst hrow hm hlines,
    counterpartyOf_eq_wholeLines fun line h => (hlines line h).toIsRow⟩

end Booking

/-! ## A savings rate -/

def readingDay : Date := ⟨2024, 6, 30, by decide⟩

def front : List Text := ["Nr.".toList, "Anfangssaldo".toList]

def behindFront : Session :=
  { Session.start Bundled.wuestenrot readingDay with
    entered := 2
    current := some Bundled.wuestenrotInfo
    lineNo := 2 }

theorem feedAll_front :
    (Session.start Bundled.wuestenrot readingDay).feedAll (some {}) front
      = .ok (behindFront, []) := by
  rfl

def savingsDay : Date := ⟨2024, 1, 2, by decide⟩

def savingsRate : GermanAmount :=
  .ungrouped .none "100".toList "00".toList (by decide) (by decide) (by decide) rfl

def savings : Text := "02.01.2024 Sparrate 02.01.2024 100,00".toList

def savingsMovement : Movement where
  bookingDate := some savingsDay
  valutaDate := some savingsDay
  amount := ⟨false, 10000, -2⟩
  postingDescription := some "Sparrate".toList

theorem isRow_savings : IsRow savings := ⟨by decide, by decide, by decide⟩

theorem inGerman : Bundled.wuestenrot.DatesGerman ∧ Bundled.wuestenrot.AmountsGerman :=
  ⟨rfl, rfl, rfl⟩

theorem tells_savings : Tells readingDay savings savingsMovement := by
  have hfound : booking.search? savings = some ⟨[(4, savingsRate.text), (3, savingsDay.german),
      (2, "Sparrate".toList), (1, savingsDay.german)]⟩ := by
    rw [booking_eq]
    decide +kernel
  exact ⟨_, _, _, _, savingsDay, savingsDay, _, hfound, Template.readDate_german inGerman.1 _ _,
    Template.readDate_german inGerman.1 _ _, Template.readAmount_german inGerman.2 _ _, by decide⟩

def mustermann : List Text := ["Max Mustermann".toList, "Bausparvertrag 1234567890".toList,
  "Nicht mehr zugeordnet".toList]

theorem isContinuation_mustermann : ∀ line ∈ mustermann, IsContinuation line := by
  have h₁ : IsContinuation "Max Mustermann".toList :=
    ⟨⟨by decide, by decide, by decide⟩, by rw [booking_eq]; decide +kernel⟩
  have h₂ : IsContinuation "Bausparvertrag 1234567890".toList :=
    ⟨⟨by decide, by decide, by decide⟩, by rw [booking_eq]; decide +kernel⟩
  have h₃ : IsContinuation "Nicht mehr zugeordnet".toList :=
    ⟨⟨by decide, by decide, by decide⟩, by rw [booking_eq]; decide +kernel⟩
  simpa [mustermann] using ⟨h₁, h₂, h₃⟩

theorem printable_mustermann :
    ∀ line ∈ mustermann.take 2, ∀ c ∈ line, isPrintable c = true := by
  have hall : (mustermann.take 2).all (·.all isPrintable) = true := by decide
  simpa only [List.all_eq_true] using hall

theorem feedAll_bookingLine_mustermann :
    Bundled.wuestenrot.run (some {}) readingDay (front ++ savings :: mustermann)
      = .ok ⟨behindFront.header, [{ savingsMovement with
        counterparty := some "Max Mustermann Bausparvertrag 1234567890".toList }]⟩ := by
  obtain ⟨-, hrun, hwhole⟩ := feedAll_bookingLine feedAll_front (.inr ⟨rfl, rfl⟩) isRow_savings
    tells_savings isContinuation_mustermann
  have hlines : counterpartyOf mustermann
      = some "Max Mustermann Bausparvertrag 1234567890".toList :=
    (hwhole printable_mustermann).trans (by decide)
  rw [hrun, hlines]
  rfl

/-- The umlaut ends what is taken of the line. -/
theorem not_run_wholeLines : ¬ ∀ (today : Date) (before : List Text) (s : Session)
    (given : List Movement) (line : Text) (m : Movement) (lines : List Text),
    (Session.start Bundled.wuestenrot today).feedAll (some {}) before = .ok (s, given) →
    (s.stage = .table ∨ s.stage = .between ∧ s.entered = 2) → IsRow line → Tells today line m →
    (∀ line ∈ lines, IsContinuation line) →
    Bundled.wuestenrot.run (some {}) today (before ++ line :: lines)
      = .ok ⟨s.header, given ++ (s.held.toList
        ++ [{ m with counterparty := wholeLines lines }])⟩ := by
  intro hall
  have hmueller : ∀ line ∈ ["Jürgen Müller".toList], IsContinuation line := by
    rw [List.forall_mem_singleton]
    exact ⟨⟨by decide, by decide, by decide⟩, by rw [booking_eq]; decide +kernel⟩
  have hwhole := hall readingDay front behindFront [] savings savingsMovement _ feedAll_front
    (.inr ⟨rfl, rfl⟩) isRow_savings tells_savings hmueller
  rw [run_begins feedAll_front (.inr ⟨rfl, rfl⟩) isRow_savings tells_savings hmueller] at hwhole
  injection hwhole with hwhole
  injection hwhole with _ hwhole
  -- what is taken of the line is its first letter
  exact absurd hwhole (by decide)

end BankStatement.WuestenrotStatement
