import BankStatement.Proofs.Reading.Assigning
import BankStatement.Proofs.Reading.GermanAmount
import BankStatement.Proofs.Reading.GermanDate
import BankStatement.Proofs.Session.Records
import BankStatement.Proofs.Source.WrittenFile
import BankStatement.Template.Bundled.Ing

/-!
# CSV exports of ING

What the bank writes: four blocks of lines, each closed by a blank line, the headings of the table,
its rows, and whatever follows a blank line behind them. There are two layouts, with and without a
column for categories, and a template for each.

Main statements: the template of a layout reads a row of this layout as its movement
(`readRecord_line`), and the template with categories cannot read a row without
(`Row.readRecord_line_error`): the columns behind the missing one are shifted, and the amount is
looked for where the currency stands.

A row is given by the values that the bank has, dates and amounts among them, and the text of its
line is put together from them. Its cells are texts without a separator and without the end of a
line, which is all that is asked of them (`IsCell`); dates, amounts and currency codes have this by
their form. The program splits a line at every separator and knows no quotes, so splitting gives
back the cells (`Row.splitOn_line`).

The two layouts differ by one column in the middle. The columns to its left and to its right are
walked separately (`walk_left`, `walk_right`) and put together for each layout, so that a change in
one of the bundled tables concerns one of these lemmas.
-/

namespace BankStatement.IngExport

open TextFile (IsFileLine)

/-! ## Rows -/

inductive Columns where
  | plain
  | withCategory
  deriving DecidableEq, Repr

def Columns.template : Columns → Template
  | .plain => Bundled.ingCsvPlain
  | .withCategory => Bundled.ingCsvWithCategory

def Columns.table : Columns → Section
  | .plain => Bundled.ingCsvTable (Bundled.ingCsvLeft ++ Bundled.ingCsvRight)
  | .withCategory =>
    Bundled.ingCsvTable (Bundled.ingCsvLeft ++ .named "Kategorie" "" :: Bundled.ingCsvRight)

/-- The text of a cell: no separator, no line end, no null character. -/
def IsCell (t : Text) : Prop := IsFileLine t ∧ ';' ∉ t

instance (t : Text) : Decidable (IsCell t) :=
  inferInstanceAs (Decidable (IsFileLine t ∧ ';' ∉ t))

/-- A currency code: letters, no digits. -/
def IsCode (t : Text) : Prop := ∀ c ∈ t, isAlphanumeric c = true ∧ isAnyDigit c = false

instance (t : Text) : Decidable (IsCode t) :=
  List.decidableBAll (fun c => isAlphanumeric c = true ∧ isAnyDigit c = false) t

structure Row where
  bookingDate : Date
  valutaDate : Date
  counterparty : Text
  postingText : Text
  /-- Only in the layout with categories. -/
  category : Text
  subject : Text
  balance : Text
  currency : Text
  amount : GermanAmount
  isCell : ∀ t ∈ [counterparty, postingText, category, subject, balance], IsCell t
  isCode : IsCode currency
  /-- The amount is not rounded. -/
  isShort : Decimal.digitCount amount.count ≤ Decimal.precision

namespace Row

/-- The cells of a row. The currency stands behind the balance and behind the amount. -/
def cells (columns : Columns) (r : Row) : List Text :=
  [r.bookingDate.german, r.valutaDate.german, r.counterparty, r.postingText]
    ++ (match columns with
      | .plain => []
      | .withCategory => [r.category])
    ++ [r.subject, r.balance, r.currency, r.amount.text, r.currency]

def line (columns : Columns) (r : Row) : Text := Text.joinWith [';'] (r.cells columns)

def values (r : Row) : Movement where
  bookingDate := some r.bookingDate
  valutaDate := some r.valutaDate
  amount := r.amount.value
  currencyCode := some r.currency
  subject := some (Text.strip r.subject)
  counterparty := some (Text.strip r.counterparty)
  postingDescription := some (Text.strip r.postingText)

/-- The movement of a row: a preview if its date is still to come. -/
def movement (today : Date) (r : Row) : Movement :=
  { r.values with isPreview := today.isBefore r.bookingDate }

end Row

/-! ## What cells hold -/

theorem isCell_of_forall {t : Text}
    (h : ∀ c ∈ t, c ∉ ['\r', '\n', Char.ofNat 0, ';']) : IsCell t :=
  ⟨⟨⟨fun hc => h _ hc (by decide), fun hc => h _ hc (by decide)⟩, fun hc => h _ hc (by decide)⟩,
    fun hc => h _ hc (by decide)⟩

theorem isCell_german (d : Date) : IsCell d.german := by
  refine isCell_of_forall fun c hc => ?_
  rcases Date.mem_german hc with hc | rfl
  · intro hmem
    have hdigit : ∀ c ∈ ['\r', '\n', Char.ofNat 0, ';'], isDecimalDigit c = false :=
      forall_mem_of_all (by decide)
    exact ne_of_class hc (hdigit c hmem) rfl
  · decide

theorem isCell_amount (a : GermanAmount) : IsCell a.text := by
  refine isCell_of_forall fun c hc hmem => ?_
  have hother : ∀ c ∈ ['\r', '\n', Char.ofNat 0, ';'],
      isDecimalDigit c = false ∧ c ∉ ['.', ',', '+', '-'] := forall_mem_of_all (by decide)
  rcases GermanAmount.mem_text hc with hc | hc
  · exact ne_of_class hc (hother c hmem).1 rfl
  · exact (hother c hmem).2 hc

theorem isCell_code {t : Text} (h : IsCode t) : IsCell t := by
  refine isCell_of_forall fun c hc hmem => ?_
  have hother : ∀ c ∈ ['\r', '\n', Char.ofNat 0, ';'], isAlphanumeric c = false :=
    forall_mem_of_all (by decide +kernel)
  exact ne_of_class (h c hc).1 (hother c hmem) rfl

theorem isCell_of_mem_cells {columns : Columns} {r : Row} {t : Text} (h : t ∈ r.cells columns) :
    IsCell t := by
  have hcell := r.isCell
  simp only [List.forall_mem_cons] at hcell
  obtain ⟨hcounterparty, hposting, hcategory, hsubject, hbalance, -⟩ := hcell
  have hcurrency := isCell_code r.isCode
  have hamount := isCell_amount r.amount
  have hdates : ∀ u ∈ [r.bookingDate.german, r.valutaDate.german, r.counterparty, r.postingText],
      IsCell u := by
    simpa using ⟨isCell_german r.bookingDate, isCell_german r.valutaDate, hcounterparty, hposting⟩
  have hrest : ∀ u ∈ [r.subject, r.balance, r.currency, r.amount.text, r.currency], IsCell u := by
    simpa using ⟨hsubject, hbalance, hcurrency, hamount, hcurrency⟩
  rcases List.mem_append.mp h with h | h
  · rcases List.mem_append.mp h with h | h
    · exact hdates t h
    · cases columns with
      | plain => cases h
      | withCategory => exact List.mem_singleton.mp h ▸ hcategory
  · exact hrest t h

theorem Row.splitOn_line (columns : Columns) (r : Row) :
    Text.splitOn [';'] (r.line columns) = r.cells columns := by
  refine Text.splitOn_joinWith ?_ fun t ht => (isCell_of_mem_cells ht).2
  cases columns <;> exact List.cons_ne_nil _ _

theorem strip_code {t : Text} (h : IsCode t) : Text.strip t = t := by
  refine Text.strip_of_trimmed (Text.trimmed_of_no_blank fun c hc => ?_)
  cases hb : isBlank c with
  | false => rfl
  | true => exact absurd (h c hc).1 (by rw [isAlphanumeric_of_isBlank hb]; decide)

/-! ## Reading a row -/

def column (name : String) (v : MovementVariable) : Field :=
  { name := .ofString name, target := .text v.label, length := 0, multiplier := 1 }

def skipped (name : String) : Field :=
  { name := .ofString name, target := .text [], length := 0, multiplier := 1 }

def leftFields : List Field := [
  column "Buchung" .bookingDate, column "Valuta" .valutaDate,
  column "Auftraggeber/Empfänger" .counterparty, column "Buchungstext" .postingDescription]

def rightFields : List Field := [
  column "Verwendungszweck" .subject, skipped "Saldo", column "Währung" .currencyCode,
  column "Betrag" .amount, column "Währung" .currencyCode]

section

variable {template : Template} {name : String} {value : Text} {m m' : Movement} {count : Nat}
  {fields : List Field} {values : List Text} {header : Header} {target : Target}

theorem walk_column {v : MovementVariable}
    (h : m.assign template v v.label value .always 1 = .ok m') :
    Section.walkColumns template count (column name v :: fields) (value :: values) ⟨header, some m⟩
      = Section.walkColumns template count fields values ⟨header, some m'⟩ :=
  Section.walkColumns_cons (Section.assignField_of_places rfl (placesIn_label v) h)

theorem walk_skipped :
    Section.walkColumns template count (skipped name :: fields) (value :: values) target
      = Section.walkColumns template count fields values target :=
  Section.walkColumns_cons (Section.assignField_skipped rfl)

end

/-- The values of both templates are in German notation, and no text is corrected. -/
structure InGerman (template : Template) : Prop where
  dates : template.DatesGerman
  amounts : template.AmountsGerman
  correct : ∀ t, template.correct t = .ok t

theorem Columns.inGerman (columns : Columns) : InGerman columns.template := by
  cases columns <;> exact ⟨rfl, ⟨rfl, rfl⟩, fun _ => rfl⟩

theorem Columns.takeValues_eq (columns : Columns) (line : Text) (target : Target) :
    columns.table.takeValues columns.template true line target
      = Section.walkColumns columns.template (Text.splitOn [';'] line).length columns.table.fields
        (Text.splitOn [';'] line) target := by
  cases columns <;> exact Section.takeValues_of_no_rules rfl

namespace Row

def leftValues (r : Row) : Movement where
  bookingDate := some r.bookingDate
  valutaDate := some r.valutaDate
  counterparty := some (Text.strip r.counterparty)
  postingDescription := some (Text.strip r.postingText)

variable {template : Template} {count : Nat} {fields : List Field} {values : List Text}

theorem walk_left (hin : InGerman template) (r : Row) (header : Header) :
    Section.walkColumns template count (leftFields ++ fields)
        ([r.bookingDate.german, r.valutaDate.german, r.counterparty, r.postingText] ++ values)
        ⟨header, some {}⟩
      = Section.walkColumns template count fields values ⟨header, some r.leftValues⟩ := by
  simp only [leftFields, List.cons_append, List.nil_append]
  rw [walk_column (Movement.assign_bookingDate_of (Template.readDate_german hin.dates _ _)),
    walk_column (Movement.assign_valutaDate_of (Template.readDate_german hin.dates _ _)),
    walk_column (Movement.assign_counterparty_first rfl (hin.correct _)),
    walk_column (Movement.assign_postingDescription_of (hin.correct _))]
  rfl

theorem walk_right (hin : InGerman template) (r : Row) (header : Header) :
    Section.walkColumns template count rightFields
        [r.subject, r.balance, r.currency, r.amount.text, r.currency] ⟨header, some r.leftValues⟩
      = (⟨header, some r.values⟩, .ok ()) := by
  have hround : r.amount.value.round = r.amount.value := Decimal.round_of_le r.isShort
  have hamount := Template.readAmount_german hin.amounts MovementVariable.amount.label r.amount
  have hone := Decimal.round_mul_one r.amount.value
  rw [hround] at hamount hone
  rw [rightFields, walk_column (Movement.assign_subject_of (hin.correct _)), walk_skipped,
    walk_column Movement.assign_currencyCode_of, walk_column (Movement.assign_amount_of hamount),
    walk_column Movement.assign_currencyCode_of, hone, strip_code r.isCode]
  rfl

theorem walkColumns_cells (columns : Columns) (r : Row) (header : Header) :
    Section.walkColumns columns.template count columns.table.fields (r.cells columns)
        ⟨header, some {}⟩
      = (⟨header, some r.values⟩, .ok ()) := by
  have hin := columns.inGerman
  cases columns with
  | plain => exact (r.walk_left hin header).trans (r.walk_right hin header)
  | withCategory =>
      exact (r.walk_left hin header).trans (walk_skipped.trans (r.walk_right hin header))

/-- A template reads a row of its own layout as its movement. -/
theorem readRecord_line (columns : Columns) (r : Row) (today : Date) (header : Header) :
    columns.table.readRecord columns.template today true (r.line columns) header
      = (header, .ok (some (r.movement today))) := by
  have htake : columns.table.takeValues columns.template true (r.line columns) ⟨header, some {}⟩
      = (⟨header, some r.values⟩, .ok ()) := by
    rw [columns.takeValues_eq, r.splitOn_line, r.walkColumns_cells]
  have hkeywords : columns.table.ignoreKeywords = [] := by cases columns <;> rfl
  rw [Section.readRecord_of_taken (Section.ignores_of_no_keywords hkeywords _) htake]
  simp only [Option.bind_some, Movement.finished?_of_bookingDate (m := r.values) rfl]
  rfl

end Row

/-! ## The wrong template -/

/-- A currency is no amount: it has no digit. This is what makes the wrong template fail at the
first row and not read it with shifted values. -/
theorem readAmount_code {template : Template} (hamounts : template.AmountsGerman) {t : Text}
    (h : IsCode t) (target : Text) :
    template.readAmount target (some t) = .error (.unreadable target (some t) none) := by
  have hmarks : template.UsesMarks .german := hamounts
  refine (Template.readAmount_error_iff hmarks target t).mpr fun hnumeral => ?_
  obtain ⟨c, hc, hdigit⟩ := hnumeral.exists_digit
  have hany := (h c (Template.mem_of_mem_bareAmount hc)).2
  rw [isAnyDigit_of_isDecimalDigit hdigit] at hany
  cases hany

/-- The template with categories reads no row without them: it takes the currency for the amount.
The fault is one of those that a statement is given up for, so the next template is tried. -/
theorem Row.readRecord_line_error (r : Row) (today : Date) (header : Header) :
    ∃ fault : Fault, fault.isStatementFault = true
      ∧ Columns.withCategory.table.readRecord Columns.withCategory.template today true
          (r.line .plain) header = (header, .error fault) := by
  have hin := Columns.withCategory.inGerman
  have hamount := readAmount_code hin.amounts r.isCode MovementVariable.amount.label
  have hassign (m : Movement) : m.assign Columns.withCategory.template .amount
      MovementVariable.amount.label r.currency .always 1
      = .error (.unreadable MovementVariable.amount.label (some r.currency) none) := by
    simp only [Movement.assign, hamount, Except.bind, bind]
  have hwalk : Section.walkColumns Columns.withCategory.template (r.cells .plain).length
      Columns.withCategory.table.fields (r.cells .plain) ⟨header, some {}⟩
      = (⟨header, some { r.leftValues with
          subject := some (Text.strip r.balance)
          currencyCode := some (Text.strip r.amount.text) }⟩,
        .error (.unreadable MovementVariable.amount.label (some r.currency) none)) := by
    refine (r.walk_left hin header).trans (walk_skipped.trans ?_)
    refine (walk_column (Movement.assign_subject_of (hin.correct _))).trans (walk_skipped.trans ?_)
    refine (walk_column Movement.assign_currencyCode_of).trans ?_
    exact Section.walkColumns_error (Section.assignField_error rfl (placesIn_label .amount)
      (hassign _))
  have htake := Columns.withCategory.takeValues_eq (r.line .plain) ⟨header, some {}⟩
  rw [r.splitOn_line, hwalk] at htake
  exact ⟨_, rfl, Section.readRecord_of_fault rfl rfl htake⟩

end BankStatement.IngExport
