import BankStatement.Proofs.Bank.IngBooking
import BankStatement.Proofs.Reading.Assigning
import BankStatement.Proofs.Session.Folding
import BankStatement.Proofs.Session.Records

/-!
# Movements of ING statements

A movement of an ING statement spreads over two lines: a booking line with date, posting text,
counterparty and amount, and a valuta line with the valuta date and the purpose. The two are not
told apart by their shape. A valuta line begins with a date and a token as well, and the rule for
booking lines reads it; what keeps it from beginning a movement of its own is that the reader asks
for an amount, and that a purpose seldom ends in one.

Main statements: a booking line with a counterparty is read as its movement and begins it, but one
without is read with its amount for the counterparty, and begins none while another one is held
(`foldLine_bookingLine`). A valuta line continues the held movement, unless its purpose reads as a
token, a text and an amount (`foldLine_valutaLine`).

Both come from one case distinction, over whether the split of a line (`Split`) has a price and
whether it is zero (`foldLine_of_price`, `foldLine_of_no_price`). So they say of every line with a
date what becomes of it, and not only of those that the bank is known to write.

The statements are about `foldLine`, which is what a session does with one line of the table it is
in, and hold for every session with the template, whatever it holds.
-/

namespace BankStatement.IngStatement

open Pattern Pattern.Node Pattern.German
open Text (Blanks Trimmed)

/-! ## The rules of the table -/

def corrected (t : Text) : Text :=
  Text.replace "Terminueberw.".toList "Terminüberweisung".toList
    (Text.replace "Ueberweisung".toList "Überweisung".toList t)

theorem correct_ingPdf (t : Text) : Bundled.ingPdf.correct t = .ok (corrected t) := rfl

def bookingRule : Rule :=
  { pattern := booking, multiplier := 1, role := .primary, maxOccurrence := none }

def valuta : Pattern := Pattern.ofLiteral Bundled.ingPdfValuta

def valutaRule : Rule :=
  { pattern := valuta, multiplier := 1, role := .additional, maxOccurrence := none }

theorem pattern_bookingRule : bookingRule.pattern = booking := by simp only [bookingRule]

theorem pattern_valutaRule : valutaRule.pattern = valuta := by simp only [valutaRule]

theorem primary_rules : Bundled.ingPdfTable.rulesOf .primary = [bookingRule] := rfl

theorem additional_rules : Bundled.ingPdfTable.rulesOf .additional = [valutaRule] := rfl

theorem inGerman : Bundled.ingPdf.DatesGerman ∧ Bundled.ingPdf.AmountsGerman := ⟨rfl, rfl, rfl⟩

/-! ## Booking lines -/

def entry (d : Date) (token name : Text) (price : Option GermanAmount) : Movement where
  bookingDate := some d
  postingDescription := some (corrected token)
  counterparty := if name = [] then none else some (corrected (Text.strip name))
  amount := price.elim Decimal.zero fun a => a.value.round

variable {d : Date} {g text token name : Text} {price : Option GermanAmount} {header : Header}

theorem namedGroups_booking {found : Match} {day : Text} (h : Takes found day token name price) :
    ∃ taken, taken.getD [] = name ∧ booking.namedGroups found
      = [(MovementVariable.bookingDate.label, some day),
        (MovementVariable.postingDescription.label, some token),
        (MovementVariable.counterparty.label, taken),
        (MovementVariable.amount.label, price.map (·.text))] := by
  refine ⟨found.groups.lookup 3, h.name, ?_⟩
  rw [namedGroups, booking_eq]
  simp only [List.map_cons, List.map_nil, h.date, h.token, h.amount]
  rfl

theorem assignGroups_booking {found : Match} (ht : IsToken token)
    (h : Takes found d.german token name price) :
    Rule.assignGroups Bundled.ingPdf .always 1 (booking.namedGroups found) ⟨header, some {}⟩
      = (⟨header, some (entry d token name price)⟩, .ok ()) := by
  obtain ⟨hdates, hamounts⟩ := inGerman
  obtain ⟨taken, htaken, hgroups⟩ := namedGroups_booking h
  -- the amount comes last, whatever the groups before it have set
  have hprice (m : Movement) (hm : m.amount = Decimal.zero) :
      Rule.assignGroups Bundled.ingPdf .always 1
          [(MovementVariable.amount.label, price.map (·.text))] ⟨header, some m⟩
        = (⟨header, some { m with
            amount := price.elim Decimal.zero fun a => a.value.round }⟩, .ok ()) := by
    cases price with
    | none => rw [Option.elim_none, ← hm]; rfl
    | some a =>
        rw [Option.map_some, Rule.assignGroups_cons a.text_ne_nil (placesIn_label _)
          (Movement.assign_amount_of (Template.readAmount_german hamounts _ a)),
          Decimal.round_mul_one]
        rfl
  have hstrip : Text.strip token = token := Text.strip_of_trimmed (Text.trimmed_of_no_blank ht.2)
  rw [hgroups, Rule.assignGroups_cons d.german_ne_nil (placesIn_label _)
      (Movement.assign_bookingDate_of (Template.readDate_german hdates _ d)),
    Rule.assignGroups_cons ht.1 (placesIn_label _)
      (Movement.assign_postingDescription_of (correct_ingPdf _)), hstrip]
  by_cases hname : name = []
  · rw [Rule.assignGroups_empty (htaken.trans hname), hprice _ rfl, entry, if_pos hname]
  · have hsome : taken = some name := by
      cases taken with
      | none => exact absurd htaken.symm hname
      | some t => exact congrArg some htaken
    rw [hsome, Rule.assignGroups_cons hname (placesIn_label _)
      (Movement.assign_counterparty_first rfl (correct_ingPdf _)), hprice _ rfl, entry,
      if_neg hname]

/-- A line with a date and a text behind it is read as its split says. Nothing is assumed of the
text but that it is on one line, so this covers booking lines and valuta lines. -/
theorem readRecord_split (hg : IsGap g) (hline : '\n' ∉ text) (h : Split text token name price)
    (today : Date) (header : Header) :
    Bundled.ingPdfTable.readRecord Bundled.ingPdf today false (d.german ++ (g ++ text)) header
      = (header, .ok (some { entry d token name price with isPreview := today.isBefore d })) := by
  obtain ⟨found, hfound, htakes⟩ := search_of_split (isDateShape_german d) hg hline h
  have ht : IsToken token := by cases h <;> assumption
  have happly : bookingRule.apply Bundled.ingPdf (d.german ++ (g ++ text)) .always
      ⟨header, some {}⟩ = (⟨header, some (entry d token name price)⟩, .ok true) := by
    rw [← pattern_bookingRule] at hfound
    refine Rule.apply_of_found hfound ?_
    rw [pattern_bookingRule]
    exact assignGroups_booking ht htakes
  rw [Section.readRecord_of_apply rfl rfl primary_rules happly, Option.bind_some,
    Movement.finished?_of_bookingDate rfl]

/-! ## Sessions that ask for an amount -/

def asksForAmount : Continuation := { requireAmount := true }

theorem isComplete_iff {m : Movement} (hdate : m.bookingDate = some d) :
    asksForAmount.isComplete (some m) = true ↔ m.amount.isZero = false := by
  simp [Continuation.isComplete, asksForAmount, hdate]

theorem foldLine_of_price {s : Session} {a : GermanAmount} (hs : s.template = Bundled.ingPdf)
    (hg : IsGap g) (hline : '\n' ∉ text) (h : Split text token name (some a))
    (ha : a.value.isZero = false) :
    s.foldLine asksForAmount Bundled.ingPdfTable (d.german ++ (g ++ text))
      = ({ s with
          held := some { entry d token name (some a) with isPreview := s.today.isBefore d }
          foldCount := 0 }, .ok s.held) := by
  have hread := readRecord_split hg hline h s.today s.header (d := d)
  rw [← hs] at hread
  refine Session.foldLine_complete hread rfl ((isComplete_iff rfl).mpr ?_)
  exact (Decimal.isZero_round a.value).trans ha

/-! ## Valuta lines -/

theorem valuta_eq : valuta = {
    source := Bundled.ingPdfValuta.toList
    node := dated (.seq (.group 2 (.times .anyChar 1 none true)) (.place .lineEnd))
    names := [("ValutaDate".toList, 1), ("Description".toList, 2)] } := by
  decide +kernel

/-- The purpose is what stands behind date and gap. The rule is anchored at the end of the line and
takes any characters, so there is only one way to match. -/
theorem search_valuta {day : Text} (hday : IsDateShape day) (hg : IsGap g) (hne : text ≠ [])
    (hhead : ∀ c ∈ text.head?, isBlank c = false) (hline : '\n' ∉ text) :
    valuta.search? (day ++ (g ++ text)) = some ⟨[(2, text), (1, day)]⟩ := by
  -- the purpose reaches to the end of the line
  have hpurpose {s : Spot} (hs : s.ahead = text) :
      (Node.seq (.group 2 (.times .anyChar 1 none true)) (.place .lineEnd)).run false s some
        = some ((s.skip text.length).mark [(2, text)]) := by
    have hall : s.ahead.takeWhile (· != '\n') = text := by
      rw [hs, List.takeWhile_eq_self_iff]
      exact fun c hc => bne_iff_ne.mpr (ne_of_mem_of_not_mem hc hline)
    show (Node.times .anyChar 1 none true).run false s
      (fun t => if (Spot.close 2 s t).isAt .lineEnd then some (Spot.close 2 s t) else none) = _
    refine run_greedy (oneChar_anyChar false) ?_ ?_
    · rw [hall]
      exact List.length_pos_iff.mpr hne
    rw [hall, Spot.close_prefix 2 (hs ▸ List.prefix_rfl), if_pos]
    simp [Spot.isAt, hs]
  have hahead (s : Spot) (hs : s.ahead = day ++ (g ++ text)) :
      ((s.skip (day.length + g.length)).mark [(1, day)]).ahead = text := by
    rw [Spot.ahead_mark, Spot.ahead_skip, hs, ← List.append_assoc, ← List.length_append,
      List.drop_left]
  have hrun := dated_run (s := ⟨0, none, day ++ (g ++ text), []⟩) rfl rfl hday hg hhead
    (hpurpose (hahead _ rfl))
  have hnode : valuta.node = dated (.seq (.group 2 (.times .anyChar 1 none true))
      (.place .lineEnd)) := by
    rw [valuta_eq]
  rw [← hnode] at hrun
  refine search?_of_matchAt ((matchAt_of_run (by rw [valuta_eq]) hrun).trans ?_)
  simp [Spot.mark]

theorem apply_valuta (d : Date) (hg : IsGap g) (hne : text ≠ [])
    (hhead : ∀ c ∈ text.head?, isBlank c = false) (hline : '\n' ∉ text) (m : Movement) :
    valutaRule.apply Bundled.ingPdf (d.german ++ (g ++ text)) .always ⟨header, some m⟩
      = (⟨header, some { m with
          valutaDate := some d, subject := some (corrected (Text.strip text)) }⟩, .ok true) := by
  have hfound := search_valuta (isDateShape_german d) hg hne hhead hline
  have hgroups : valuta.namedGroups ⟨[(2, text), (1, d.german)]⟩
      = [(MovementVariable.valutaDate.label, some d.german),
        (MovementVariable.subject.label, some text)] := by
    rw [namedGroups, valuta_eq]
    rfl
  rw [← pattern_valutaRule] at hfound
  refine Rule.apply_of_found hfound ?_
  rw [pattern_valutaRule, hgroups, Rule.assignGroups_cons d.german_ne_nil (placesIn_label _)
      (Movement.assign_valutaDate_of (Template.readDate_german inGerman.1 _ d)),
    Rule.assignGroups_cons hne (placesIn_label _)
      (Movement.assign_subject_of (correct_ingPdf _))]
  rfl

theorem Split.head (h : Split text token name price) : ∀ c ∈ text.head?, isBlank c = false := by
  cases h with
  | bare ht => simpa using ht.head []
  | named ht | priced ht => exact ht.head _

theorem Split.ne_nil (h : Split text token name price) : text ≠ [] := by
  cases h with
  | bare ht => exact ht.1
  | named ht | priced ht => exact List.append_ne_nil_of_left_ne_nil ht.1 _

/-- A line with a date continues the held movement where its split has no amount, or none but zero:
the movement that was read of it is incomplete and dropped, and the line is tried as a valuta line.
-/
theorem foldLine_of_no_price {s : Session} {m : Movement} (hs : s.template = Bundled.ingPdf)
    (hheld : s.held = some m) (hg : IsGap g) (hline : '\n' ∉ text)
    (h : Split text token name price) (hprice : ∀ a ∈ price, a.value.isZero = true) :
    s.foldLine asksForAmount Bundled.ingPdfTable (d.german ++ (g ++ text))
      = ({ s with
          held := some { m with
            valutaDate := some d, subject := some (corrected (Text.strip text)) }
          foldCount := s.foldCount + 1 }, .ok none) := by
  -- the rule for booking lines reads the line as well, but not as a complete movement
  have hzero : (entry d token name price).amount.isZero = true := by
    cases price with
    | none => rfl
    | some a => exact (Decimal.isZero_round a.value).trans (hprice a rfl)
  have hcontinues : asksForAmount.Continues
      (some { entry d token name price with isPreview := s.today.isBefore d }) := by
    rintro _ ⟨⟩
    refine ⟨rfl, Bool.eq_false_iff.mpr fun hcomplete => ?_⟩
    have hnonzero := (isComplete_iff (d := d) rfl).mp hcomplete
    exact absurd (hzero.symm.trans hnonzero) (by decide)
  have hread : s.parse (some asksForAmount) Bundled.ingPdfTable (d.german ++ (g ++ text))
      = (s.header,
        .ok (some { entry d token name price with isPreview := s.today.isBefore d })) := by
    rw [Session.parse, hs]
    exact readRecord_split hg hline h s.today s.header
  rw [Session.foldLine_of_continues hheld hread hcontinues
    (Section.ignores_of_no_keywords rfl _), additional_rules]
  refine Session.foldRules_of_found ?_ rfl
  rw [hs, hheld]
  exact apply_valuta d hg h.ne_nil h.head hline m

/-! ## What a booking line becomes -/

theorem noLine_of_no_blank {t : Text} (h : ∀ c ∈ t, isBlank c = false) : '\n' ∉ t := by
  intro hmem
  have hblank : isBlank '\n' = true := by decide
  rw [h _ hmem] at hblank
  cases hblank

/-- A booking line: date, posting text, counterparty if there is one, and amount. -/
structure BookingLine where
  date : Date
  posting : Text
  counterparty : Option Text
  amount : GermanAmount
  posting_token : IsToken posting
  counterparty_trimmed : ∀ name ∈ counterparty, Trimmed name ∧ name ≠ [] ∧ '\n' ∉ name
  amount_grouped : amount.lead.length ≤ 3

namespace BookingLine

def behind (b : BookingLine) : Text :=
  match b.counterparty with
  | none => b.amount.text
  | some name => name ++ ' ' :: b.amount.text

def body (b : BookingLine) : Text := b.posting ++ ' ' :: b.behind

def line (b : BookingLine) : Text := b.date.german ++ ' ' :: b.body

def movement (b : BookingLine) (today : Date) : Movement where
  bookingDate := some b.date
  postingDescription := some (corrected b.posting)
  counterparty := b.counterparty.map corrected
  amount := b.amount.value
  isPreview := today.isBefore b.date

variable {b : BookingLine} {name : Text}

theorem noLine_body (b : BookingLine) : '\n' ∉ b.body := by
  have hamount : '\n' ∉ b.amount.text :=
    noLine_of_no_blank fun c hc => GermanAmount.notBlank_of_mem_text hc
  have hbehind : '\n' ∉ b.behind := by
    unfold behind
    split
    next => exact hamount
    next name hname =>
      have hline := (b.counterparty_trimmed name hname).2.2
      simp [hline, hamount]
  simp [body, noLine_of_no_blank b.posting_token.2, hbehind]

theorem line_eq (b : BookingLine) : b.line = b.date.german ++ ([' '] ++ b.body) := rfl

theorem split_of_counterparty (h : b.counterparty = some name) :
    Split b.body b.posting name (some b.amount) := by
  obtain ⟨htrimmed, hne, -⟩ := b.counterparty_trimmed name h
  have hbody : b.body = b.posting ++ ([' '] ++ (name ++ ([' '] ++ b.amount.text))) := by
    simp only [body, behind, h]
    rfl
  rw [hbody]
  exact .priced b.posting_token isGap_blank htrimmed hne isGap_blank b.amount_grouped

/-- Without a counterparty the amount takes its place: the name is looked for first, and the end of
the line may follow it without an amount. -/
theorem split_of_no_counterparty (h : b.counterparty = none) :
    Split b.body b.posting b.amount.text none := by
  have hblank : ∀ c ∈ b.amount.text, isBlank c = false := fun c hc =>
    GermanAmount.notBlank_of_mem_text hc
  have hbody : b.body = b.posting ++ ([' '] ++ b.amount.text) := by
    simp only [body, behind, h]
    rfl
  rw [hbody]
  refine .named b.posting_token isGap_blank (Text.trimmed_of_no_blank hblank).1 ?_
  rintro before g a hg - hsplit
  obtain ⟨c, g, rfl⟩ := List.exists_cons_of_ne_nil hg.2
  have hc : isBlank c = true := hg.1 c List.mem_cons_self
  rw [hblank c (by rw [hsplit]; simp)] at hc
  cases hc

theorem corrected_amount (a : GermanAmount) : corrected a.text = a.text := by
  have hnone {c : Char} (hc : isDecimalDigit c = false) (hc' : c ∉ ['.', ',', '+', '-']) :
      c ∉ a.text := by
    intro hmem
    rcases GermanAmount.mem_text hmem with h | h
    · rw [hc] at h; cases h
    · exact hc' h
  have hfirst : Text.replace "Ueberweisung".toList "Überweisung".toList a.text = a.text :=
    Text.replace_of_notMem (hnone (by decide) (by decide)) _
  rw [corrected, hfirst]
  exact Text.replace_of_notMem (hnone (by decide) (by decide)) _

theorem strip_body_of_no_counterparty (h : b.counterparty = none) :
    Text.strip b.body = b.body := by
  have hbody : b.body = b.posting ++ ([' '] ++ b.amount.text) := by
    simp only [body, behind, h]
    rfl
  have hamount : Trimmed b.amount.text :=
    Text.trimmed_of_no_blank fun c hc => GermanAmount.notBlank_of_mem_text hc
  rw [hbody]
  exact Text.strip_of_trimmed ((Text.trimmed_of_no_blank b.posting_token.2).append hamount
    b.posting_token.1 b.amount.text_ne_nil [' '])

/-- The movement that is read from the line: without a counterparty, the amount is taken for it. -/
def read (b : BookingLine) (today : Date) : Movement :=
  match b.counterparty with
  | some _ => { b.movement today with amount := b.amount.value.round }
  | none => { b.movement today with
      counterparty := some b.amount.text
      amount := Decimal.zero }

theorem read_of_counterparty (h : b.counterparty = some name) (today : Date) :
    b.read today = { entry b.date b.posting name (some b.amount) with
      isPreview := today.isBefore b.date } := by
  obtain ⟨htrimmed, hne, -⟩ := b.counterparty_trimmed name h
  simp only [read, h, movement, entry, if_neg hne, Option.map_some, Text.strip_of_trimmed htrimmed,
    Option.elim_some]

theorem read_of_no_counterparty (h : b.counterparty = none) (today : Date) :
    b.read today = { entry b.date b.posting b.amount.text none with
      isPreview := today.isBefore b.date } := by
  have htrimmed : Trimmed b.amount.text :=
    Text.trimmed_of_no_blank fun c hc => GermanAmount.notBlank_of_mem_text hc
  simp only [read, h, movement, entry, if_neg b.amount.text_ne_nil, Option.elim_none,
    Text.strip_of_trimmed htrimmed, corrected_amount]

theorem readRecord_line (b : BookingLine) (today : Date) (header : Header) :
    Bundled.ingPdfTable.readRecord Bundled.ingPdf today false b.line header
      = (header, .ok (some (b.read today))) := by
  cases h : b.counterparty with
  | some name =>
      rw [line_eq, read_of_counterparty h]
      exact readRecord_split isGap_blank b.noLine_body (split_of_counterparty h) today header
  | none =>
      rw [line_eq, read_of_no_counterparty h]
      exact readRecord_split isGap_blank b.noLine_body (split_of_no_counterparty h) today header

theorem isComplete_read (b : BookingLine) (today : Date) :
    asksForAmount.isComplete (some (b.read today))
      = (b.counterparty.isSome && !b.amount.value.isZero) := by
  unfold read
  split
  next name h =>
    have hzero := Decimal.isZero_round b.amount.value
    simp [Continuation.isComplete, asksForAmount, movement, h, hzero]
  next h => simp [Continuation.isComplete, asksForAmount, movement, h, Decimal.zero, Decimal.isZero]

theorem read_eq_movement (hname : b.counterparty.isSome = true)
    (hdigits : Decimal.digitCount b.amount.count ≤ Decimal.precision) (today : Date) :
    b.read today = b.movement today := by
  obtain ⟨name, h⟩ := Option.isSome_iff_exists.mp hname
  have hexact : b.amount.value.round = b.amount.value := Decimal.round_of_le hdigits
  simp only [read, h, hexact]
  rfl

theorem foldLine_of_counterparty {s : Session} (hs : s.template = Bundled.ingPdf)
    (hname : b.counterparty.isSome = true) (hamount : b.amount.value.isZero = false) :
    s.foldLine asksForAmount Bundled.ingPdfTable b.line
      = ({ s with held := some (b.read s.today), foldCount := 0 }, .ok s.held) := by
  obtain ⟨name, h⟩ := Option.isSome_iff_exists.mp hname
  rw [line_eq, read_of_counterparty h]
  exact foldLine_of_price hs isGap_blank b.noLine_body (split_of_counterparty h) hamount

theorem foldLine_of_no_counterparty {s : Session} {m : Movement} (hs : s.template = Bundled.ingPdf)
    (hname : b.counterparty = none) (hheld : s.held = some m) :
    s.foldLine asksForAmount Bundled.ingPdfTable b.line
      = ({ s with
          held := some { m with
            valutaDate := some b.date, subject := some (corrected b.body) }
          foldCount := s.foldCount + 1 }, .ok none) := by
  have hfold := foldLine_of_no_price (d := b.date) hs hheld isGap_blank b.noLine_body
    (split_of_no_counterparty hname) (by simp)
  rwa [← line_eq, strip_body_of_no_counterparty hname] at hfold

end BookingLine

/-- A booking line with a counterparty is read as what it tells, and begins its movement unless the
amount is zero. One without is read with the amount for its counterparty: the movement it begins has
no amount, and while another one is held it is taken for a valuta line. -/
theorem foldLine_bookingLine (b : BookingLine) (s : Session) (hs : s.template = Bundled.ingPdf) :
    Bundled.ingPdfTable.readRecord s.template s.today false b.line s.header
        = (s.header, .ok (some (b.read s.today)))
      ∧ (b.counterparty.isSome = true →
        Decimal.digitCount b.amount.count ≤ Decimal.precision →
        b.read s.today = b.movement s.today)
      ∧ asksForAmount.isComplete (some (b.read s.today))
        = (b.counterparty.isSome && !b.amount.value.isZero)
      ∧ (b.counterparty.isSome = true → b.amount.value.isZero = false →
        s.foldLine asksForAmount Bundled.ingPdfTable b.line
          = ({ s with held := some (b.read s.today), foldCount := 0 }, .ok s.held))
      ∧ (b.counterparty = none → ∀ m, s.held = some m →
        s.foldLine asksForAmount Bundled.ingPdfTable b.line
          = ({ s with
              held := some { m with
                valutaDate := some b.date, subject := some (corrected b.body) }
              foldCount := s.foldCount + 1 }, .ok none))
      ∧ (s.held = none → s.foldLine asksForAmount Bundled.ingPdfTable b.line
        = ({ s with held := some (b.read s.today), foldCount := 0 }, .ok none)) := by
  have hread := b.readRecord_line s.today s.header
  rw [← hs] at hread
  have hreadable : (b.read s.today).isError = false
      ∧ (b.read s.today).bookingDate.isSome = true := by
    unfold BookingLine.read
    split <;> exact ⟨rfl, rfl⟩
  exact ⟨hread, fun hname hdigits => BookingLine.read_eq_movement hname hdigits s.today,
    b.isComplete_read s.today, BookingLine.foldLine_of_counterparty hs,
    fun hname m hheld => BookingLine.foldLine_of_no_counterparty hs hname hheld,
    fun hheld => Session.foldLine_opens hheld hread hreadable.1 hreadable.2⟩

def BookingLine.purchase : BookingLine where
  date := ⟨2024, 3, 1, by decide⟩
  posting := "Lastschrift".toList
  counterparty := some "REWE".toList
  amount := .ungrouped .minus "23".toList "45".toList (by decide) (by decide) (by decide) rfl
  posting_token := by decide
  counterparty_trimmed := by
    rintro _ ⟨⟩
    exact ⟨by decide, by decide, by decide⟩
  amount_grouped := by decide

def BookingLine.fee : BookingLine where
  date := ⟨2024, 3, 1, by decide⟩
  posting := "Entgelt".toList
  counterparty := none
  amount := .ungrouped .minus "4".toList "90".toList (by decide) (by decide) (by decide) rfl
  posting_token := by decide
  counterparty_trimmed := by simp
  amount_grouped := by decide

def yearEnd : Date := ⟨2024, 12, 31, by decide⟩

def holdingPurchase : Session :=
  { Session.start Bundled.ingPdf yearEnd with held := some (BookingLine.purchase.movement yearEnd) }

/-- The purchase begins its movement, and the fee behind it gets none of its own. -/
theorem foldLine_bookingLine_purchase :
    holdingPurchase.template = Bundled.ingPdf ∧ BookingLine.purchase.counterparty.isSome = true
      ∧ Decimal.digitCount BookingLine.purchase.amount.count ≤ Decimal.precision
      ∧ BookingLine.purchase.amount.value.isZero = false ∧ BookingLine.fee.counterparty = none
      ∧ (Session.start Bundled.ingPdf yearEnd).foldLine asksForAmount Bundled.ingPdfTable
        BookingLine.purchase.line = (holdingPurchase, .ok none)
      ∧ holdingPurchase.foldLine asksForAmount Bundled.ingPdfTable BookingLine.fee.line
        = ({ holdingPurchase with
            held := some { BookingLine.purchase.movement yearEnd with
              valutaDate := some BookingLine.fee.date
              subject := some "Entgelt -4,90".toList }
            foldCount := 1 }, .ok none) := by
  obtain ⟨-, hread, -, hbegins, -⟩ := foldLine_bookingLine BookingLine.purchase
    (Session.start Bundled.ingPdf yearEnd) rfl
  obtain ⟨-, -, -, -, hcontinues, -⟩ := foldLine_bookingLine BookingLine.fee holdingPurchase rfl
  have hpurchase := hbegins rfl (by decide)
  have hmovement : BookingLine.purchase.read yearEnd = BookingLine.purchase.movement yearEnd :=
    hread rfl (by decide)
  refine ⟨rfl, rfl, by decide, by decide, rfl, hpurchase.trans ?_, (hcontinues rfl _ rfl).trans ?_⟩
  · show ({ Session.start Bundled.ingPdf yearEnd with
      held := some (BookingLine.purchase.read yearEnd), foldCount := 0 }, Except.ok none) = _
    rw [hmovement]
    rfl
  · have hsubject : corrected BookingLine.fee.body = "Entgelt -4,90".toList := by decide
    rw [hsubject]
    rfl

theorem not_readRecord_bookingLine : ¬ ∀ (b : BookingLine) (today : Date) (header : Header),
    Decimal.digitCount b.amount.count ≤ Decimal.precision →
    Bundled.ingPdfTable.readRecord Bundled.ingPdf today false b.line header
      = (header, .ok (some (b.movement today))) := by
  intro hall
  have hread := hall BookingLine.fee yearEnd {} (by decide)
  rw [BookingLine.readRecord_line] at hread
  injection hread with _ hread
  injection hread with hread
  injection hread with hread
  -- the fee is read without its amount
  exact absurd (congrArg Movement.amount hread) (by decide)

/-! ## What a valuta line becomes -/

/-- A purpose that reads as posting text, counterparty and amount. -/
def EndsInPrice (purpose : Text) (a : GermanAmount) : Prop :=
  ∃ before text token name, Blanks before ∧ purpose = before ++ text
    ∧ Split text token name (some a)

/-- A purpose that is not blank has a split: its blanks in front belong to the gap behind the date,
and what follows them begins with a token. -/
theorem exists_split_of_purpose {purpose : Text} (hfull : ¬ Blanks purpose) :
    ∃ before text token name price, purpose = before ++ text ∧ Blanks before
      ∧ Split text token name price ∧ Text.strip text = Text.strip purpose := by
  obtain ⟨before, text, hpurpose, hbefore, hhead⟩ := exists_run isBlank purpose
  have hne : text ≠ [] := by
    rintro rfl
    rw [List.append_nil] at hpurpose
    exact hfull (hpurpose ▸ hbefore)
  obtain ⟨token, name, price, hsplit⟩ := exists_split hne hhead
  refine ⟨before, text, token, name, price, hpurpose, hbefore, hsplit, ?_⟩
  have hstrip := Text.strip_blanks hbefore Text.blanks_nil text
  rw [List.append_nil, ← hpurpose] at hstrip
  exact hstrip.symm

theorem isGap_cons {before : Text} (h : Blanks before) : IsGap (' ' :: before) :=
  ⟨List.forall_mem_cons.mpr ⟨by decide, h⟩, List.cons_ne_nil _ _⟩

/-- A line with a date and a purpose continues the held movement, unless the purpose ends in a price
that is not zero: then it begins a movement, with the first word for its posting text. The reader
cannot tell such a purpose from the text of a booking line, and asking for an amount does not help
it. -/
theorem foldLine_valutaLine (d : Date) {purpose : Text} (hfull : ¬ Blanks purpose)
    (hline : '\n' ∉ purpose) {s : Session} {m : Movement} (hs : s.template = Bundled.ingPdf)
    (hheld : s.held = some m) :
    ((∀ a, EndsInPrice purpose a → a.value.isZero = true) →
        s.foldLine asksForAmount Bundled.ingPdfTable (d.german ++ ' ' :: purpose)
          = ({ s with
              held := some { m with
                valutaDate := some d, subject := some (corrected (Text.strip purpose)) }
              foldCount := s.foldCount + 1 }, .ok none))
      ∧ ∀ a, EndsInPrice purpose a → a.value.isZero = false →
        ∃ m', m'.bookingDate = some d ∧ m'.amount = a.value.round
          ∧ s.foldLine asksForAmount Bundled.ingPdfTable (d.german ++ ' ' :: purpose)
            = ({ s with held := some m', foldCount := 0 }, .ok (some m)) := by
  constructor
  · intro hprice
    -- both rules count the blanks in front of the purpose to the gap behind the date
    obtain ⟨before, text, token, name, price, rfl, hbefore, hsplit, hstrip⟩ :=
      exists_split_of_purpose hfull
    rw [← hstrip]
    have hfold := foldLine_of_no_price (d := d) hs hheld (isGap_cons hbefore)
      (fun h => hline (List.mem_append_right before h)) hsplit fun a ha =>
        hprice a ⟨before, text, token, name, hbefore, rfl, ha ▸ hsplit⟩
    rwa [List.cons_append] at hfold
  · rintro a ⟨before, text, token, name, hbefore, rfl, hsplit⟩ ha
    have hfold := foldLine_of_price (d := d) hs (isGap_cons hbefore)
      (fun h => hline (List.mem_append_right before h)) hsplit ha
    rw [List.cons_append, hheld] at hfold
    exact ⟨_, rfl, rfl, hfold⟩

theorem foldLine_purchase :
    (Session.start Bundled.ingPdf yearEnd).foldLine asksForAmount Bundled.ingPdfTable
      BookingLine.purchase.line = (holdingPurchase, .ok none) := by
  have hmovement : BookingLine.purchase.read (Session.start Bundled.ingPdf yearEnd).today
      = BookingLine.purchase.movement yearEnd :=
    BookingLine.read_eq_movement rfl (by decide) yearEnd
  rw [BookingLine.foldLine_of_counterparty rfl rfl (by decide), hmovement]
  rfl

def invoiced : GermanAmount :=
  .ungrouped .none "12".toList "80".toList (by decide) (by decide) (by decide) rfl

def invoice : Text := "Rechnung vom 12,80".toList

theorem split_invoice : Split invoice "Rechnung".toList "vom".toList (some invoiced) := by
  have hinvoice : invoice
      = "Rechnung".toList ++ ([' '] ++ ("vom".toList ++ ([' '] ++ invoiced.text))) := rfl
  rw [hinvoice]
  exact .priced (by decide) isGap_blank (by decide) (by decide) isGap_blank (by decide)

theorem not_blanks_invoice : ¬ Blanks invoice := fun h =>
  absurd (Text.isBlankText_iff.mpr h) (by decide)

theorem not_endsInPrice_of_no_blank {purpose : Text} (h : ∀ c ∈ purpose, isBlank c = false)
    (a : GermanAmount) : ¬ EndsInPrice purpose a := by
  rintro ⟨before, _, _, _, -, rfl, hsplit⟩
  cases hsplit with
  | @priced _ g _ _ _ _ hg =>
      obtain ⟨c, g, rfl⟩ := List.exists_cons_of_ne_nil hg.2
      have hc : isBlank c = true := hg.1 c List.mem_cons_self
      rw [h c (by simp)] at hc
      cases hc

/-- A purpose of one word continues the purchase, one that ends in a price begins a movement. -/
theorem foldLine_valutaLine_invoice :
    ¬ Blanks "Einkauf".toList ∧ '\n' ∉ "Einkauf".toList ∧ ¬ Blanks invoice ∧ '\n' ∉ invoice
      ∧ (∀ a, EndsInPrice "Einkauf".toList a → a.value.isZero = true)
      ∧ EndsInPrice invoice invoiced ∧ invoiced.value.isZero = false
      ∧ holdingPurchase.foldLine asksForAmount Bundled.ingPdfTable
          (yearEnd.german ++ ' ' :: "Einkauf".toList)
        = ({ holdingPurchase with
            held := some { BookingLine.purchase.movement yearEnd with
              valutaDate := some yearEnd
              subject := some "Einkauf".toList }
            foldCount := 1 }, .ok none)
      ∧ ∃ m, m.bookingDate = some yearEnd ∧ m.amount = ⟨false, 1280, -2⟩
        ∧ holdingPurchase.foldLine asksForAmount Bundled.ingPdfTable
            (yearEnd.german ++ ' ' :: invoice)
          = ({ holdingPurchase with held := some m, foldCount := 0 },
            .ok (some (BookingLine.purchase.movement yearEnd))) := by
  have hword : ¬ Blanks "Einkauf".toList := fun h => absurd (Text.isBlankText_iff.mpr h) (by decide)
  have hnone : ∀ a, EndsInPrice "Einkauf".toList a → a.value.isZero = true := fun a h =>
    absurd h (not_endsInPrice_of_no_blank (forall_mem_of_all (by decide)) a)
  have hprice : EndsInPrice invoice invoiced :=
    ⟨[], invoice, _, _, Text.blanks_nil, rfl, split_invoice⟩
  obtain ⟨hcontinues, -⟩ := foldLine_valutaLine yearEnd hword (by decide) (s := holdingPurchase)
    rfl rfl
  obtain ⟨-, hbegins⟩ := foldLine_valutaLine yearEnd not_blanks_invoice (by decide)
    (s := holdingPurchase) rfl rfl
  obtain ⟨m, hdate, hamount, hfold⟩ := hbegins invoiced hprice (by decide)
  have hsubject : corrected (Text.strip "Einkauf".toList) = "Einkauf".toList := by decide
  have hvalue : invoiced.value.round = ⟨false, 1280, -2⟩ := by decide
  refine ⟨hword, by decide, not_blanks_invoice, by decide, hnone, hprice, by decide,
    (hcontinues hnone).trans ?_, m, hdate, hamount.trans hvalue, hfold⟩
  rw [hsubject]
  rfl

/-- Where a booking line has begun its movement, not every valuta line continues it. -/
theorem not_foldLine_valutaLine : ¬ ∀ (b : BookingLine) (s t : Session) (given : Option Movement)
    (d : Date) (purpose : Text), s.template = Bundled.ingPdf →
    s.foldLine asksForAmount Bundled.ingPdfTable b.line = (t, .ok given) →
    t.held = some (b.movement t.today) → ¬ Blanks purpose → '\n' ∉ purpose →
    Bundled.ingPdfTable.endsAt (d.german ++ ' ' :: purpose) = false →
    t.foldLine asksForAmount Bundled.ingPdfTable (d.german ++ ' ' :: purpose)
      = ({ t with
          held := some { b.movement t.today with
            valutaDate := some d, subject := some (corrected (Text.strip purpose)) }
          foldCount := t.foldCount + 1 }, .ok none) := by
  intro hall
  have hcontinues := hall BookingLine.purchase _ _ _ yearEnd invoice rfl foldLine_purchase rfl
    not_blanks_invoice (by decide) (by decide)
  have hbegins := foldLine_of_price (s := holdingPurchase) (d := yearEnd) rfl isGap_blank
    (by decide) split_invoice (by decide)
  -- the purchase is given out, and a valuta line gives nothing out
  have hgiven := congrArg Prod.snd (hcontinues.symm.trans hbegins)
  cases hgiven

end BankStatement.IngStatement
