import BankStatement.Bank.Reader
import BankStatement.Proofs.Reading.AmountNotation
import BankStatement.Proofs.Reading.GermanDate
import BankStatement.Proofs.Session.Records
import BankStatement.Proofs.Session.WholeLines
import BankStatement.Proofs.Source.PageMerging

/-!
# Card statements of Barclays are read back

The card table has columns of fixed widths. A row is written by filling its values up to these
widths, and is cut at the same places again (`readRecord_row`). The template of the overview layout
finds no table in a card statement (`run_overview`); the one of the plain layout passes over the
lines before the table, ignores the heading and the old balances, and gives out one movement a row
(`run_plain`).

Main statement: `read_cardStatement`, a page with a card statement is read as its rows.

A statement is a list of lines in which rows and ignored lines may come in any order, between a line
with the keyword of the table and one that closes it. What is asked of its lines is only that no
keyword stands where it would be taken for another part of the statement; in particular a row with
such a keyword in its name is left out of the domain, because it really ends the table or is passed
over.

The first template has to be followed to the end of the page, since a template that finds a record
would be the one that is used. It waits for its first keyword there, and an empty result makes way
for the next template.

Amounts are kept as they are read, rounded to the digits that results hold; for as many digits that
changes nothing, and the last theorem of the module has an amount for which it does.
-/

namespace BankStatement.BarclaysStatement

open Decimal (digitCount precision)

/-! ## Rows -/

/-- A text with blanks behind it, up to a width. -/
def filled (width : Nat) (t : Text) : Text := t ++ List.replicate (width - t.length) ' '

theorem length_filled {width : Nat} {t : Text} (h : t.length ≤ width) :
    (filled width t).length = width := by
  rw [filled, List.length_append, List.length_replicate]
  omega

theorem strip_filled (width : Nat) (t : Text) : Text.strip (filled width t) = Text.strip t := by
  have hblanks : Text.Blanks (List.replicate (width - t.length) ' ') := by
    intro c hc
    rw [List.eq_of_mem_replicate hc]
    decide
  exact Text.strip_blanks Text.blanks_nil hblanks t

structure CardRow where
  bookingDate : Date
  valutaDate : Date
  name : Text
  city : Text
  country : Text
  card : Text
  coefficient : Nat
  scale : Nat
  amount : AmountSpelling .german coefficient scale
  name_fits : name.length ≤ 23
  city_fits : city.length ≤ 14
  country_fits : country.length ≤ 3
  card_fits : card.length ≤ 15

namespace CardRow

def line (r : CardRow) : Text :=
  filled 11 r.bookingDate.german ++ (filled 11 r.valutaDate.german ++ (filled 23 r.name
    ++ (filled 14 r.city ++ (filled 3 r.country ++ (filled 15 r.card ++ r.amount.text)))))

/-- What the columns of a row hold, with some amount. -/
def values (r : CardRow) (amount : Decimal) : Movement where
  bookingDate := some r.bookingDate
  valutaDate := some r.valutaDate
  amount := amount
  counterparty := some (Text.strip r.name)

/-- The movement of a row with some amount: a preview if its date is still to come. -/
def movementOf (today : Date) (r : CardRow) (amount : Decimal) : Movement :=
  { r.values amount with isPreview := today.isBefore r.bookingDate }

/-- The movement of a row, its amount rounded as all results are. -/
def movement (today : Date) (r : CardRow) : Movement := r.movementOf today r.amount.value.round

end CardRow

section

variable {template : Template} {name title : String} {width : Nat} {value rest : Text}
  {m m' : Movement} {fields : List Field} {header : Header} {target : Target}

def wideField (title target : String) (width : Nat) : Field where
  name := .ofString title
  target := .ofString target
  length := width
  multiplier := 1

/-- A value that is filled up to the width of its field is cut off again as it was written, and
assigned as its variable asks for. Rows are read by as many of these steps as there are columns. -/
theorem walk_filled {v : MovementVariable} (hwidth : 0 < width) (hfits : value.length ≤ width)
    (hfield : (wideField title name width).target = .text v.label)
    (h : m.assign template v v.label (filled width value) .always 1 = .ok m') :
    Section.walkWidths template (wideField title name width :: fields) (filled width value ++ rest)
        ⟨header, some m⟩
      = Section.walkWidths template fields rest ⟨header, some m'⟩ := by
  have hlen := length_filled hfits
  refine Section.walkWidths_cons (congrArg _ hlen.symm) ?_
    (Section.assignField_of_places hfield (placesIn_label v) h)
  exact List.ne_nil_of_length_pos (by omega)

theorem walk_skipped (hwidth : 0 < width) (hfits : value.length ≤ width) :
    Section.walkWidths template (wideField title "" width :: fields) (filled width value ++ rest)
        target
      = Section.walkWidths template fields rest target := by
  have hlen := length_filled hfits
  refine Section.walkWidths_cons (congrArg _ hlen.symm) ?_ (Section.assignField_skipped rfl)
  exact List.ne_nil_of_length_pos (by omega)

end

theorem fields_card : Bundled.barclaysCardTable.fields = [
    wideField "Buchung" "PostingDate" 11, wideField "Valuta" "ValutaDate" 11,
    wideField "Auftraggeber/Empfänger" "SourceName" 23, wideField "Ort" "" 14,
    wideField "Land" "" 3, wideField "Karte" "" 15, wideField "Betrag" "Amount" 0] := rfl

theorem inGerman : Bundled.barclaysPlain.DatesGerman ∧ Bundled.barclaysPlain.UsesMarks .german :=
  ⟨rfl, rfl, rfl⟩

theorem walkWidths_line (r : CardRow) (header : Header) :
    Section.walkWidths Bundled.barclaysPlain Bundled.barclaysCardTable.fields r.line
        ⟨header, some {}⟩
      = (⟨header, some (r.values r.amount.value.round)⟩, .ok ()) := by
  have hdate (d : Date) : Text.strip (filled 11 d.german) = d.german :=
    (strip_filled 11 d.german).trans d.strip_german
  have hfits (d : Date) : d.german.length ≤ 11 := by
    rw [d.length_german]
    decide
  have hamount := Template.readAmount_spelling inGerman.2 MovementVariable.amount.label r.amount
  have hone : r.amount.value.round * Decimal.ofInt 1 = r.amount.value.round :=
    Decimal.round_mul_one _
  rw [fields_card, CardRow.line,
    walk_filled (v := .bookingDate) (by decide) (hfits _) rfl
      (Movement.assign_bookingDate_of (Template.readDate_of_strip inGerman.1 _ (hdate _))),
    walk_filled (v := .valutaDate) (by decide) (hfits _) rfl
      (Movement.assign_valutaDate_of (Template.readDate_of_strip inGerman.1 _ (hdate _))),
    walk_filled (v := .counterparty) (by decide) r.name_fits rfl
      (Movement.assign_counterparty_first rfl rfl),
    walk_skipped (by decide) r.city_fits, walk_skipped (by decide) r.country_fits,
    walk_skipped (by decide) r.card_fits,
    Section.walkWidths_rest rfl (Section.assignField_of_places rfl (placesIn_label .amount)
      (Movement.assign_amount_of hamount))]
  show (Target.mk header (some { r.values (r.amount.value.round * Decimal.ofInt 1) with
    counterparty := some (Text.strip (filled 23 r.name)) }), Except.ok ()) = _
  rw [strip_filled, hone]
  rfl

theorem readRecord_row {r : CardRow} (hkept : Bundled.barclaysCardTable.ignores r.line = false)
    (today : Date) (header : Header) :
    Bundled.barclaysCardTable.readRecord Bundled.barclaysPlain today true r.line header
      = (header, .ok (some (r.movement today))) := by
  have htake : Bundled.barclaysCardTable.takeValues Bundled.barclaysPlain true r.line
      ⟨header, some {}⟩ = (⟨header, some (r.values r.amount.value.round)⟩, .ok ()) := by
    rw [Section.takeValues_of_no_rules rfl, ← walkWidths_line r header]
    rfl
  rw [Section.readRecord_of_taken hkept htake]
  simp only [Option.bind_some,
    Movement.finished?_of_bookingDate (m := r.values r.amount.value.round) rfl]
  rfl

/-! ## Statements -/

/-- A line of the card table: a row, or one that is ignored. -/
inductive CardLine where
  | row (r : CardRow)
  | ignored (line : Text)

def CardLine.text : CardLine → Text
  | .row r => r.line
  | .ignored line => line

def CardLine.row? : CardLine → Option CardRow
  | .row r => some r
  | .ignored _ => none

/-- The keyword behind which the card table begins. -/
def heading : Text := "Hauptkarte/n".toList

def cardLines (preamble : List Text) (mark : Text) (body : List CardLine) (closing : Text) :
    List Text :=
  preamble ++ (mark :: body.map CardLine.text ++ [closing])

structure CardStatement where
  preamble : List Text
  mark : Text
  body : List CardLine
  closing : Text
  isLine : ∀ line ∈ cardLines preamble mark body closing, Text.IsLine line
  notBlank : ∀ line ∈ cardLines preamble mark body closing, Text.isBlankText line = false
  notGeneral : ∀ line ∈ cardLines preamble mark body closing,
    Text.occursIn "Allgemeine Umsätze ".toList line = false
  preamble_unmarked : ∀ line ∈ preamble, Text.occursIn heading line = false
  mark_marked : Text.occursIn heading mark = true
  unfinished : ∀ line ∈ mark :: body.map CardLine.text,
    ∀ keyword ∈ Bundled.barclaysCardEnd, Text.occursIn keyword line = false
  rows_kept : ∀ r, .row r ∈ body →
    ∀ keyword ∈ Bundled.barclaysCardTable.ignoreKeywords, Text.occursIn keyword r.line = false
  others_ignored : ∀ line, .ignored line ∈ body → Text.occursIn "Alter Saldo".toList line = true
  closing_closes : Text.occursIn "Umsätze ".toList closing = true
  some_row : ∃ r, .row r ∈ body

namespace CardStatement

def lines (x : CardStatement) : List Text := cardLines x.preamble x.mark x.body x.closing

def rows (x : CardStatement) : List CardRow := x.body.filterMap CardLine.row?

variable (x : CardStatement)

theorem isLine_of_mem : ∀ line ∈ x.lines, Text.IsLine line := x.isLine

theorem mem_lines_of_preamble {line : Text} (h : line ∈ x.preamble) : line ∈ x.lines :=
  List.mem_append_left _ h

theorem mem_lines_of_table {line : Text} (h : line ∈ x.mark :: x.body.map CardLine.text) :
    line ∈ x.lines :=
  List.mem_append_right _ (List.mem_append_left _ h)

theorem closing_mem : x.closing ∈ x.lines :=
  List.mem_append_right _ (List.mem_append_right _ List.mem_cons_self)

theorem rows_ne_nil : x.rows ≠ [] := by
  obtain ⟨r, hr⟩ := x.some_row
  exact List.ne_nil_of_mem (List.mem_filterMap.mpr ⟨_, hr, rfl⟩)

end CardStatement

theorem endsAt_skip (name keyword : String) (line : Text) :
    (Section.skip name [keyword]).endsAt line = Text.occursIn keyword.toList line := by
  simp [Section.endsAt, Section.skip]

/-- The overview layout waits for its first keyword to the end of the page and gives out nothing. It
does not fail either, so the next template is asked because the result is empty. -/
theorem run_overview (x : CardStatement) (today : Date) :
    Bundled.barclaysOverview.run none today x.lines = .ok ⟨{}, []⟩ := by
  have hopen : ∀ line ∈ x.lines, Text.isBlankText line = false
      ∧ (Section.skip "Block1" ["Allgemeine Umsätze "]).endsAt line = false :=
    fun line hline => ⟨x.notBlank line hline, (endsAt_skip ..).trans (x.notGeneral line hline)⟩
  have hpass := passOver_append hopen []
  rw [List.append_nil] at hpass
  have hskip : (Section.skip "Block1" ["Allgemeine Umsätze "]).read none Bundled.barclaysOverview
      today x.lines {} = .ok ⟨{}, [], []⟩ := by
    rw [read_of_ignore rfl, hpass]
    rfl
  have hsections : Bundled.barclaysOverview.sections
      = .skip "Block1" ["Allgemeine Umsätze "] :: Bundled.barclaysOverview.sections.tail := rfl
  rw [run_of_isLine none _ today x.isLine_of_mem, hsections, readSections_cons hskip,
    Session.after_nil, readSections_nil]

theorem ignores_of_mem {sec : Section} {keyword line : Text} (h : keyword ∈ sec.ignoreKeywords)
    (hline : Text.occursIn keyword line = true) : sec.ignores line = true :=
  List.any_eq_true.mpr ⟨keyword, h, hline⟩

def CardLine.movement? (today : Date) : CardLine → Option Movement
  | .row r => some (r.movement today)
  | .ignored _ => none

theorem readRecord_cardLine {x : CardStatement} {l : CardLine} (h : l ∈ .ignored x.mark :: x.body)
    (today : Date) (header : Header) :
    Bundled.barclaysCardTable.readRecord Bundled.barclaysPlain today true l.text header
      = (header, .ok (l.movement? today)) := by
  rcases List.mem_cons.mp h with rfl | h
  · have hheading : heading ∈ Bundled.barclaysCardTable.ignoreKeywords := by decide
    exact Section.readRecord_of_ignores (ignores_of_mem hheading x.mark_marked)
  · cases l with
    | row r =>
        refine readRecord_row ?_ today header
        rw [Section.ignores, List.any_eq_false]
        intro keyword hkeyword
        rw [x.rows_kept r h keyword hkeyword]
        decide
    | ignored line =>
        have hbalance : "Alter Saldo".toList ∈ Bundled.barclaysCardTable.ignoreKeywords := by decide
        exact Section.readRecord_of_ignores (ignores_of_mem hbalance (x.others_ignored line h))

theorem endsAt_card {line : Text}
    (h : ∀ keyword ∈ Bundled.barclaysCardEnd, Text.occursIn keyword line = false) :
    Bundled.barclaysCardTable.endsAt line = false := by
  rw [Section.endsAt, List.any_eq_false]
  intro keyword hkeyword
  rw [h keyword hkeyword]
  decide

theorem filterMap_movement? (x : CardStatement) (today : Date) :
    (CardLine.ignored x.mark :: x.body).filterMap (·.movement? today)
      = x.rows.map (·.movement today) := by
  have hrow : (fun l : CardLine => l.movement? today) = fun l => l.row?.map (·.movement today) := by
    funext l
    cases l <;> rfl
  rw [List.filterMap_cons_none rfl, CardStatement.rows, List.map_filterMap, hrow]

/-- The card table leaves the line that closes it to the section behind it, and has nothing more to
give out since no row is held. -/
theorem rows_closing (x : CardStatement) (today : Date) (header : Header) :
    (Bundled.barclaysCardTable.desk Bundled.barclaysPlain today header).rows none
      Bundled.barclaysCardTable [x.closing] = .ok ⟨header, [], [x.closing]⟩ := by
  have hend : Bundled.barclaysCardTable.endsAt x.closing = true :=
    List.any_eq_true.mpr ⟨_, List.mem_cons_self, x.closing_closes⟩
  rw [Session.rows, x.notBlank _ x.closing_mem, hend]
  rfl

/-- The card table gives out its rows: the ignored lines among them have no movement, and the others
are given out in their order. -/
theorem read_cardTable (x : CardStatement) (today : Date) (header : Header) :
    Bundled.barclaysCardTable.read none Bundled.barclaysPlain today
        (x.mark :: x.body.map CardLine.text ++ [x.closing]) header
      = .ok ⟨header, x.rows.map (·.movement today), [x.closing]⟩ := by
  have hline : ∀ l ∈ CardLine.ignored x.mark :: x.body, Text.isBlankText l.text = false
      ∧ Bundled.barclaysCardTable.endsAt l.text = false := by
    intro l hl
    have htext : l.text ∈ x.mark :: x.body.map CardLine.text :=
      List.mem_map_of_mem (f := CardLine.text) hl
    exact ⟨x.notBlank _ (x.mem_lines_of_table htext), endsAt_card (x.unfinished _ htext)⟩
  have hsound : ∀ l ∈ CardLine.ignored x.mark :: x.body, ∀ m ∈ l.movement? today,
      m.isError = false := by
    intro l _ m hm
    cases l with
    | row r => cases hm; rfl
    | ignored line => cases hm
  have hread := rows_of_readRecord (s := Bundled.barclaysCardTable.desk Bundled.barclaysPlain today
    header) rfl rfl hline (fun l hl => readRecord_cardLine hl today header) hsound [x.closing]
  rw [rows_closing, filterMap_movement?] at hread
  simp only [Except.map, Part.after, List.append_nil] at hread
  exact hread

/-- The plain layout reads a card statement as its rows. -/
theorem run_plain (x : CardStatement) (today : Date) :
    Bundled.barclaysPlain.run none today x.lines = .ok ⟨{}, x.rows.map (·.movement today)⟩ := by
  have hopen : ∀ line ∈ x.preamble, Text.isBlankText line = false
      ∧ (Section.skip "Block1" ["Hauptkarte/n"]).endsAt line = false :=
    fun line hline => ⟨x.notBlank line (x.mem_lines_of_preamble hline),
      (endsAt_skip ..).trans (x.preamble_unmarked line hline)⟩
  have hmark : Text.isBlankText x.mark = false :=
    x.notBlank _ (x.mem_lines_of_table List.mem_cons_self)
  have hmarkEnds : (Section.skip "Block1" ["Hauptkarte/n"]).endsAt x.mark = true :=
    (endsAt_skip ..).trans x.mark_marked
  have hpass : (Section.skip "Block1" ["Hauptkarte/n"]).passOver x.lines
      = x.mark :: x.body.map CardLine.text ++ [x.closing] := by
    rw [CardStatement.lines, cardLines, passOver_append hopen, List.cons_append, Section.passOver,
      hmark, hmarkEnds]
    rfl
  have hlast : (Section.skip "BlockEnd" []).passOver [x.closing] = [] := by
    rw [Section.passOver, x.notBlank _ x.closing_mem, Section.endsAt_of_no_keywords rfl]
    rfl
  have hskip : (Section.skip "Block1" ["Hauptkarte/n"]).read none Bundled.barclaysPlain today
      x.lines {} = .ok ⟨{}, [], x.mark :: x.body.map CardLine.text ++ [x.closing]⟩ := by
    rw [read_of_ignore rfl, hpass]
  have hskipEnd : (Section.skip "BlockEnd" []).read none Bundled.barclaysPlain today [x.closing] {}
      = .ok ⟨{}, [], []⟩ := by
    rw [read_of_ignore rfl, hlast]
  have hsections : Bundled.barclaysPlain.sections
      = [.skip "Block1" ["Hauptkarte/n"], Bundled.barclaysCardTable, .skip "BlockEnd" []] := rfl
  rw [run_of_isLine none _ today x.isLine_of_mem, hsections, readSections_cons hskip,
    Session.after_nil, readSections_cons (read_cardTable x today {}), readSections_cons hskipEnd,
    Session.after_nil, readSections_nil]
  simp only [Except.map, Statement.after, List.append_nil]

/-! ## Pages -/

theorem templatesFor_barclays :
    Catalogue.bundled.templatesFor (.text BankReader.barclaysPdf.kind)
      = [Bundled.barclaysOverview, Bundled.barclaysPlain] := by
  have hown : (Value.ofString "barclays_pdf").sameKey (.text BankReader.barclaysPdf.kind)
      = true := by
    decide +kernel
  rw [Catalogue.templatesFor, Catalogue.bundled]
  simp only [List.find?_cons, hown]
  rfl

/-- A page with a card statement is read as its rows. -/
theorem read_page (x : CardStatement) (newline : Text.Newline) {file : StatementFile}
    (hfile : file.pages = .ok [some (Text.joinWith newline.text x.lines)]) (fallback : Text)
    (today : Date) :
    BankReader.barclaysPdf.read fallback Catalogue.bundled today file
      = .ok (some ⟨{ description := BankReader.barclaysPdf.defaultDescription file.name },
        x.rows.map (·.movement today)⟩) := by
  have hne : x.lines ≠ [] := List.append_ne_nil_of_right_ne_nil _ (List.cons_ne_nil _ _)
  have hlines : BankReader.barclaysPdf.readLines fallback file = .ok x.lines := by
    show file.pages.map mergePages = _
    rw [hfile, Except.map, mergePages_single newline hne x.isLine x.notBlank]
  have hsome : (x.rows.map (·.movement today)).isEmpty = false := by
    simpa using x.rows_ne_nil
  have hfirst : Template.runFirst none today x.lines
      [Bundled.barclaysOverview, Bundled.barclaysPlain]
      = .ok (some ⟨{}, x.rows.map (·.movement today)⟩) := by
    simp only [Template.runFirst, run_overview, run_plain, hsome, List.isEmpty_nil, if_true,
      Bool.false_eq_true, if_false]
  rw [BankReader.read, hlines, templatesFor_barclays]
  show (Template.runFirst none today x.lines _ >>= _) = _
  rw [hfirst]
  rfl

/-- The reader of Barclays card statements with the bundled templates: the first template finds
nothing in a page with a card statement, the second one reads exactly one movement a row, in order,
with the dates of the row, its name trimmed as the counterparty, and its signed amount. An amount of
no more digits than results hold is exact, a longer one is rounded. -/
theorem read_cardStatement (x : CardStatement) (newline : Text.Newline) (file : StatementFile)
    (hfile : file.pages = .ok [some (Text.joinWith newline.text x.lines)]) (fallback : Text)
    (today : Date) :
    (∃ others, Catalogue.bundled.templatesFor (.text BankReader.barclaysPdf.kind)
        = Bundled.barclaysOverview :: others)
      ∧ Bundled.barclaysOverview.run none today x.lines = .ok ⟨{}, []⟩
      ∧ BankReader.barclaysPdf.read fallback Catalogue.bundled today file
        = .ok (some ⟨{ description := BankReader.barclaysPdf.defaultDescription file.name },
          x.rows.map fun r => r.movementOf today r.amount.value.round⟩)
      ∧ ∀ r ∈ x.rows, digitCount r.coefficient ≤ precision →
        r.amount.value.round = r.amount.value :=
  ⟨⟨_, templatesFor_barclays⟩, run_overview x today, read_page x newline hfile fallback today,
    fun _ _ hcount => Decimal.round_of_le hcount⟩

/-! ## A statement -/

/-- A row that can stand in a statement. -/
def Stands (r : CardRow) : Prop :=
  Text.IsLine r.line ∧ Text.isBlankText r.line = false
    ∧ ∀ keyword ∈ "Allgemeine Umsätze ".toList :: (Bundled.barclaysCardEnd
      ++ Bundled.barclaysCardTable.ignoreKeywords), Text.occursIn keyword r.line = false

instance (r : CardRow) : Decidable (Stands r) :=
  inferInstanceAs (Decidable (_ ∧ _ ∧ _))

/-- Rows behind a letterhead, the heading and the old balance. -/
def CardStatement.ofRows (rows : List CardRow) (hne : rows ≠ []) (h : ∀ r ∈ rows, Stands r) :
    CardStatement where
  preamble := ["BAWAG AG Niederlassung Deutschland".toList]
  mark := "Hauptkarte/n".toList
  body := .ignored "Alter Saldo 120,00".toList :: rows.map .row
  closing := "Umsätze gesamt 35,99-".toList
  isLine := by
    simp only [cardLines, List.forall_mem_append, List.forall_mem_cons, List.map_cons, List.map_map,
      List.forall_mem_map]
    refine ⟨by decide, ⟨by decide, by decide, fun r hr => (h r hr).1⟩, by decide⟩
  notBlank := by
    simp only [cardLines, List.forall_mem_append, List.forall_mem_cons, List.map_cons, List.map_map,
      List.forall_mem_map]
    refine ⟨by decide, ⟨by decide, by decide, fun r hr => (h r hr).2.1⟩, by decide⟩
  notGeneral := by
    simp only [cardLines, List.forall_mem_append, List.forall_mem_cons, List.map_cons, List.map_map,
      List.forall_mem_map]
    refine ⟨by decide, ⟨by decide, by decide, fun r hr => (h r hr).2.2 _ List.mem_cons_self⟩,
      by decide⟩
  preamble_unmarked := by decide
  mark_marked := by decide
  unfinished := by
    simp only [List.forall_mem_cons, List.map_cons, List.map_map, List.forall_mem_map]
    refine ⟨by decide, by decide, fun r hr keyword hk => ?_⟩
    exact (h r hr).2.2 keyword (List.mem_cons_of_mem _ (List.mem_append_left _ hk))
  rows_kept := by
    intro r hr keyword hk
    have hmem : r ∈ rows := by simpa using hr
    exact (h r hmem).2.2 keyword (List.mem_cons_of_mem _ (List.mem_append_right _ hk))
  others_ignored := by
    intro line hline
    have heq : line = "Alter Saldo 120,00".toList := by simpa using hline
    rw [heq]
    decide
  closing_closes := by decide
  some_row := by
    obtain ⟨r, rest, rfl⟩ := List.exists_cons_of_ne_nil hne
    exact ⟨r, by simp⟩

def purchase {coefficient scale : Nat} (amount : AmountSpelling .german coefficient scale) :
    CardRow where
  bookingDate := ⟨2024, 3, 15, by decide⟩
  valutaDate := ⟨2024, 3, 16, by decide⟩
  name := "AMAZON EU SARL".toList
  city := "LUXEMBOURG".toList
  country := "LU".toList
  card := "4567XXXX1234".toList
  coefficient
  scale
  amount
  name_fits := by decide
  city_fits := by decide
  country_fits := by decide
  card_fits := by decide

def smallDebit : AmountSpelling .german 4599 2 where
  leading := .none
  trailing := .minus
  whole := "45".toList
  fraction := "99".toList
  body := "45,99".toList
  text := "45,99-".toList
  digits := by decide
  ne_nil := by decide
  coefficient_eq := by decide
  scale_eq := by decide
  grouped := .inl (by decide)
  spaced := by decide

/-- Thirty digits, two more than results hold. -/
def hugeDebit : AmountSpelling .german 123456789012345678901234567890 2 where
  leading := .none
  trailing := .minus
  whole := "1234567890123456789012345678".toList
  fraction := "90".toList
  body := "1.234.567.890.123.456.789.012.345.678,90".toList
  text := "1.234.567.890.123.456.789.012.345.678,90-".toList
  digits := by decide +kernel
  ne_nil := by decide
  coefficient_eq := by decide +kernel
  scale_eq := by decide
  grouped := .inl (by decide +kernel)
  spaced := by decide +kernel

def smallPurchase : CardStatement :=
  .ofRows [purchase smallDebit] (List.cons_ne_nil _ _) (by decide +kernel)

def hugePurchase : CardStatement :=
  .ofRows [purchase hugeDebit] (List.cons_ne_nil _ _) (by decide +kernel)

def CardStatement.file (x : CardStatement) : StatementFile where
  name := "karte.pdf".toList
  bytes := none
  pages := .ok [some (Text.joinWith Text.Newline.lineFeed.text x.lines)]

theorem read_cardStatement_smallPurchase :
    BankReader.barclaysPdf.read "cp1252".toList Catalogue.bundled ⟨2024, 12, 31, by decide⟩
        smallPurchase.file
      = .ok (some ⟨{ description := "Barclays Import karte.pdf".toList }, [{
        bookingDate := some ⟨2024, 3, 15, by decide⟩
        valutaDate := some ⟨2024, 3, 16, by decide⟩
        amount := ⟨true, 4599, -2⟩
        counterparty := some "AMAZON EU SARL".toList }]⟩) := by
  obtain ⟨-, -, hread, -⟩ := read_cardStatement smallPurchase .lineFeed smallPurchase.file rfl
    "cp1252".toList ⟨2024, 12, 31, by decide⟩
  rw [hread]
  refine congrArg (fun s => Except.ok (some s)) ?_
  decide +kernel

/-- Not every row keeps its amount: one of thirty digits is rounded. -/
theorem not_read_cardStatement_exact :
    ¬ ∀ (x : CardStatement) (today : Date), ∃ header,
      BankReader.barclaysPdf.read "cp1252".toList Catalogue.bundled today x.file
        = .ok (some ⟨header, x.rows.map fun r => r.movementOf today r.amount.value⟩) := by
  intro h
  obtain ⟨header, hexact⟩ := h hugePurchase ⟨2024, 12, 31, by decide⟩
  rw [read_page hugePurchase .lineFeed rfl] at hexact
  have hmovements : hugePurchase.rows.map (·.movement ⟨2024, 12, 31, by decide⟩)
      = hugePurchase.rows.map fun r => r.movementOf ⟨2024, 12, 31, by decide⟩ r.amount.value :=
    congrArg Statement.movements (Option.some.inj (Except.ok.inj hexact))
  have hne : hugePurchase.rows.map (·.movement ⟨2024, 12, 31, by decide⟩)
      ≠ hugePurchase.rows.map fun r => r.movementOf ⟨2024, 12, 31, by decide⟩ r.amount.value := by
    decide +kernel
  exact hne hmovements

end BankStatement.BarclaysStatement
