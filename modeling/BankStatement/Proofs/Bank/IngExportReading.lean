import BankStatement.Importer
import BankStatement.Proofs.Bank.IngExport
import BankStatement.Proofs.Reading.Labels
import BankStatement.Proofs.Session.WholeLines

/-!
# Exports of ING are read back

An export goes through the sections of a template one after the other: each of the four blocks is
used up by its own section (`passOver_block`, `readLabels_block`), the table passes over the
headings and turns every row into its movement (`rows_export`). So the template of the layout reads
the rows (`run_export`), and the template with categories fails at the first row without
(`run_export_error`), which leaves the file to the other template.

Main statement: `parse_export`, an export file is recognized and imported as its rows.

The runs are told by the reading of sections that `Proofs.Session.Sections` shows to be what a
session does, where each section takes its lines and leaves the rest to the next one. The blocks are
never looked into. They are any lines that are not blank, and the one that is read for labels only
has to be one whose labels take every text (`LabelsTexts`), so that no fault comes from it.

Behind the reading stand the steps from the bytes of a file: a mark at their beginning and the
characters at the ends of the lines are any that the bank may choose, the file is found to be one of
ING by its first line, and the templates are tried in the order of the catalogue.
-/

namespace BankStatement.IngExport

open TextFile (IsFileLine)

/-! ## Exports -/

/-- Lines that are not blank, and the blank line behind them. -/
structure Block where
  content : List Text
  closing : Text
  content_line : ∀ line ∈ content, IsFileLine line ∧ Text.isBlankText line = false
  closing_line : IsFileLine closing
  closing_blank : Text.isBlankText closing = true

def Block.lines (b : Block) : List Text := b.content ++ [b.closing]

structure Export where
  columns : Columns
  title : Block
  info : Block
  order : Block
  note : Block
  headings : Text
  rows : List Row
  /-- What follows the rows, if anything a blank line first. -/
  tail : List Text
  title_names_bank : ∃ line ∈ title.content.head?, "ING-DiBa AG".toList <+: line
  headings_line : IsFileLine headings
  rows_ne_nil : rows ≠ []
  tail_line : ∀ line ∈ tail, IsFileLine line
  tail_blank : ∀ line ∈ tail.head?, Text.isBlankText line = true

namespace Export

/-- The table: headings, rows, and what follows. -/
def tableLines (x : Export) : List Text :=
  x.headings :: (x.rows.map (·.line x.columns) ++ x.tail)

def lines (x : Export) : List Text :=
  x.title.lines ++ (x.info.lines ++ (x.order.lines ++ (x.note.lines ++ x.tableLines)))

end Export

/-! ## Blocks -/

section

variable {sec : Section} {template : Template} {header : Header} {rest : List Text}

theorem passOver_block (hend : sec.endKeywords = []) (b : Block) :
    sec.passOver (b.lines ++ rest) = rest := by
  have hcontent : ∀ line ∈ b.content, Text.isBlankText line = false ∧ sec.endsAt line = false :=
    fun line hline => ⟨(b.content_line line hline).2, Section.endsAt_of_no_keywords hend line⟩
  rw [Block.lines, List.append_assoc, passOver_append hcontent, List.singleton_append,
    Section.passOver, if_pos b.closing_blank]

/-- The labels of a section are texts, and its variables take any text. -/
structure LabelsTexts (sec : Section) : Prop where
  separator : ∃ t, sec.separator = .text t
  keys : ∀ key ∈ sec.keys, ∃ name target v, key.name = .text name ∧ key.target = .text target
    ∧ HeaderVariable.ofName? target = some v ∧ v ≠ .periodStart ∧ v ≠ .periodEnd

theorem LabelsTexts.allText (h : LabelsTexts sec) : Key.AllText sec.keys := by
  intro key hkey _
  obtain ⟨name, target, v, hname, htarget, hv, hstart, hend⟩ := h.keys key hkey
  have hvariable : key.target.headerVariable? = some v := by
    rw [htarget]
    exact hv
  refine ⟨⟨name, hname⟩, v, hvariable, ?_⟩
  cases v with
  | periodStart => exact absurd rfl hstart
  | periodEnd => exact absurd rfl hend
  | _ => rfl

theorem readLabels_block (hlabels : LabelsTexts sec) (hend : sec.endKeywords = []) (b : Block)
    (header : Header) :
    ∃ header', sec.readLabels template (b.lines ++ rest) header = .ok ⟨header', [], rest⟩ := by
  obtain ⟨content, closing, hcontent, -, hclosing⟩ := b
  rw [Block.lines, List.append_assoc]
  induction content generalizing header with
  | nil =>
      refine ⟨header, ?_⟩
      show sec.readLabels template (closing :: rest) header = _
      rw [Section.readLabels, hclosing]
      rfl
  | cons line content ih =>
      obtain ⟨hline, hcontent⟩ := List.forall_mem_cons.mp hcontent
      obtain ⟨separator, hseparator⟩ := hlabels.separator
      obtain ⟨next, hread⟩ : ∃ next, sec.readKeyValue template line header = (next, .ok ()) := by
        rw [Section.readKeyValue, hseparator]
        obtain ⟨next, hread, -⟩ := readKeys_entry template separator line hlabels.allText header
        exact ⟨next, hread⟩
      obtain ⟨header', hrest⟩ := ih next hcontent
      refine ⟨header', ?_⟩
      rw [List.cons_append, Section.readLabels, hline.2, Section.endsAt_of_no_keywords hend, hread]
      exact hrest

end

/-! ## The table -/

theorem isFileLine_line (columns : Columns) (r : Row) : IsFileLine (r.line columns) := by
  refine ⟨⟨fun hc => ?_, fun hc => ?_⟩, fun hc => ?_⟩
  all_goals
    rcases TextFile.mem_joinWith hc with hsep | ⟨t, ht, hmem⟩
    · exact absurd hsep (by decide)
  · exact (isCell_of_mem_cells ht).1.1.1 hmem
  · exact (isCell_of_mem_cells ht).1.1.2 hmem
  · exact (isCell_of_mem_cells ht).1.2 hmem

theorem isBlankText_line (columns : Columns) (r : Row) :
    Text.isBlankText (r.line columns) = false := by
  have hpoint : '.' ∈ r.line columns := by
    have hdate : '.' ∈ r.bookingDate.german := by simp [Date.german]
    obtain ⟨others, hne, hcells⟩ : ∃ others, others ≠ []
        ∧ r.cells columns = r.bookingDate.german :: others := by
      cases columns <;> exact ⟨_, List.cons_ne_nil _ _, rfl⟩
    rw [Row.line, hcells, Text.joinWith_cons _ _ hne, List.append_assoc]
    exact List.mem_append_left _ hdate
  exact Text.isBlankText_of_mem hpoint (by decide)

variable {today : Date} {s : Session}

theorem rows_export {columns : Columns} (htemplate : s.template = columns.template)
    (hcurrent : s.current = some columns.table) (hheld : s.held = none) (rows : List Row)
    {tail : List Text} (htail : ∀ line ∈ tail.head?, Text.isBlankText line = true) :
    s.rows none columns.table (rows.map (·.line columns) ++ tail)
      = .ok ⟨s.header, rows.map (·.movement s.today), tail.drop 1⟩ := by
  have hkeep : columns.table.removeDuplicates = false := by cases columns <;> rfl
  have hkeywords : columns.table.endKeywords = [] := by cases columns <;> rfl
  have hclose : s.rows none columns.table tail = .ok ⟨s.header, [], tail.drop 1⟩ := by
    cases tail with
    | nil => simp [Session.rows, Session.close, hheld, Session.emit?]
    | cons line tail =>
        simp [Session.rows, Session.close, hheld, Session.emit?, htail line rfl]
  have hread : ∀ r ∈ rows,
      columns.table.readRecord s.template s.today true (r.line columns) s.header
        = (s.header, .ok (some (r.movement s.today))) := by
    intro r _
    rw [htemplate]
    exact r.readRecord_line columns s.today s.header
  rw [rows_of_readRecord hcurrent hkeep (fun r _ => ⟨isBlankText_line columns r,
    Section.endsAt_of_no_keywords hkeywords _⟩) hread (fun r _ m hm => by cases hm; rfl), hclose]
  simp only [Except.map, Part.after, List.append_nil, List.filterMap_eq_map']

/-- The first row without categories is a fault for the template with categories, whatever lines
follow. Sessions without a policy do not turn it into an error record. -/
theorem rows_export_error (htemplate : s.template = Columns.withCategory.template) (r : Row)
    (lines : List Text) :
    ∃ fault : Fault, fault.isStatementFault = true
      ∧ s.rows none Columns.withCategory.table (r.line .plain :: lines) = .error fault := by
  obtain ⟨fault, hfault, hread⟩ := r.readRecord_line_error s.today s.header
  refine ⟨fault, hfault, ?_⟩
  rw [← htemplate] at hread
  have hend : Columns.withCategory.table.endsAt (r.line .plain) = false :=
    Section.endsAt_of_no_keywords rfl _
  rw [Session.rows, isBlankText_line, hend]
  simp only [Bool.false_eq_true, if_false, Session.tableLine, hread]

/-! ## All sections -/

theorem read_skip (template : Template) (today : Date) (name : String) (b : Block)
    (rest : List Text) (header : Header) :
    (Section.skip name []).read none template today (b.lines ++ rest) header
      = .ok ⟨header, [], rest⟩ := by
  show Except.ok (Part.mk header [] ((Section.skip name []).passOver (b.lines ++ rest))) = _
  rw [passOver_block rfl]

theorem labelsTexts_info : LabelsTexts Bundled.ingCsvBlocks[1] where
  separator := ⟨_, rfl⟩
  keys := by
    intro key hkey
    rcases List.mem_cons.mp hkey with rfl | hkey
    · exact ⟨_, _, .iban, rfl, rfl, by decide, by decide, by decide⟩
    rcases List.mem_cons.mp hkey with rfl | hkey
    · exact ⟨_, _, .accountHolder, rfl, rfl, by decide, by decide, by decide⟩
    obtain rfl := List.mem_singleton.mp hkey
    exact ⟨_, _, .description, rfl, rfl, by decide, by decide, by decide⟩

theorem read_info (template : Template) (today : Date) (b : Block) (rest : List Text)
    (header : Header) :
    ∃ header', Bundled.ingCsvBlocks[1].read none template today (b.lines ++ rest) header
      = .ok ⟨header', [], rest⟩ :=
  readLabels_block labelsTexts_info rfl b header

theorem readSections_blocks (template : Template) (today : Date) (x : Export)
    (secs : List Section) :
    ∃ header, template.readSections none today (Bundled.ingCsvBlocks ++ secs) x.lines {}
      = template.readSections none today secs x.tableLines header := by
  obtain ⟨header, hinfo⟩ := read_info template today x.info
    (x.order.lines ++ (x.note.lines ++ x.tableLines)) {}
  refine ⟨header, ?_⟩
  show template.readSections none today (.skip "Title" [] :: Bundled.ingCsvBlocks[1]
    :: .skip "Sortierung" [] :: .skip "Hinweis" [] :: secs) x.lines {} = _
  rw [Export.lines, readSections_cons (read_skip template today _ x.title _ _),
    Session.after_nil, readSections_cons hinfo, Session.after_nil,
    readSections_cons (read_skip template today _ x.order _ _), Session.after_nil,
    readSections_cons (read_skip template today _ x.note _ _), Session.after_nil]

theorem Export.isFileLine {x : Export} {line : Text} (h : line ∈ x.lines) : IsFileLine line := by
  have hblock {b : Block} (hb : line ∈ b.lines) : IsFileLine line := by
    rcases List.mem_append.mp hb with hb | hb
    · exact (b.content_line line hb).1
    · exact List.mem_singleton.mp hb ▸ b.closing_line
  simp only [Export.lines, Export.tableLines, List.mem_append, List.mem_cons, List.mem_map] at h
  rcases h with h | h | h | h | rfl | ⟨r, -, rfl⟩ | h
  · exact hblock h
  · exact hblock h
  · exact hblock h
  · exact hblock h
  · exact x.headings_line
  · exact isFileLine_line x.columns r
  · exact x.tail_line line h

/-- A run of the lines of an export reads the table from its headings on. The header that the blocks
leave is not described: a movement does not depend on it. -/
theorem run_eq_table (x : Export) (columns : Columns) (today : Date) :
    ∃ header, columns.template.run none today x.lines
      = columns.template.readSections none today [columns.table] x.tableLines header := by
  have hsections : columns.template.sections = Bundled.ingCsvBlocks ++ [columns.table] := by
    cases columns <;> rfl
  obtain ⟨header, hblocks⟩ := readSections_blocks columns.template today x [columns.table]
  refine ⟨header, ?_⟩
  rw [run_of_isLine none columns.template today fun line hline => (Export.isFileLine hline).1,
    hsections, hblocks]

theorem read_table (columns : Columns) (today : Date) (headings : Text) (lines : List Text)
    (header : Header) :
    columns.table.read none columns.template today (headings :: lines) header
      = (columns.table.desk columns.template today header).rows none columns.table lines := by
  cases columns <;> rfl

/-- The template of its layout reads the rows of an export. -/
theorem run_export (x : Export) (today : Date) :
    ∃ header, x.columns.template.run none today x.lines
      = .ok ⟨header, x.rows.map (·.movement today)⟩ := by
  obtain ⟨header, hrun⟩ := run_eq_table x x.columns today
  refine ⟨header, ?_⟩
  have hrows := rows_export (s := x.columns.table.desk x.columns.template today header) rfl rfl rfl
    x.rows x.tail_blank
  rw [hrun, Template.readSections, Export.tableLines, read_table, hrows]
  simp only [Template.readSections, Except.map, Statement.after, List.append_nil]
  rfl

/-- The template with categories does not read an export without. -/
theorem run_export_error (x : Export) (hplain : x.columns = .plain) (today : Date) :
    ∃ fault : Fault, fault.isStatementFault = true
      ∧ Columns.withCategory.template.run none today x.lines = .error fault := by
  obtain ⟨header, hrun⟩ := run_eq_table x .withCategory today
  obtain ⟨r, rows, hrows⟩ := List.exists_cons_of_ne_nil x.rows_ne_nil
  obtain ⟨fault, hfault, hread⟩ := rows_export_error
    (s := Columns.withCategory.table.desk Columns.withCategory.template today header) rfl r
    (rows.map (·.line .plain) ++ x.tail)
  refine ⟨fault, hfault, ?_⟩
  rw [hrun, Template.readSections, Export.tableLines, read_table, hplain, hrows, List.map_cons,
    List.cons_append, hread]

/-! ## Files -/

def Export.bytes (x : Export) (marked : Bool) (newline : Text.Newline) : Bytes :=
  TextFile.written marked newline x.lines

theorem Export.exists_lines (x : Export) :
    ∃ line lines, x.lines = line :: lines ∧ "ING-DiBa AG".toList <+: line := by
  obtain ⟨line, hline, hmark⟩ := x.title_names_bank
  refine ⟨line, ?_, ?_, hmark⟩
  · exact x.lines.tail
  · rw [lines, Block.lines]
    cases hc : x.title.content with
    | nil => rw [hc] at hline; cases hline
    | cons l content => rw [hc] at hline; cases hline; rfl

theorem isIng_of_prefix {line : Text} {lines : List Text} (h : "ING-DiBa AG".toList <+: line) :
    BankReader.isIng (line :: lines) = true := by
  have hstrip : "ING-DiBa AG".toList <+: Text.strip line :=
    Text.prefix_strip (by decide) (by decide) h
  have hcontent : BankReader.firstContentLine (line :: lines) = Text.strip line := by
    have hne : Text.strip line ≠ [] := by
      intro hnil
      rw [hnil, List.prefix_nil] at hstrip
      exact absurd hstrip (by decide)
    obtain ⟨c, t, ht⟩ := List.exists_cons_of_ne_nil hne
    simp [BankReader.firstContentLine, Text.strip?, ht]
  rw [BankReader.isIng, hcontent, List.isPrefixOf_iff_prefix]
  exact hstrip

/-- An export file is one of ING, and its lines are those of the export. -/
theorem identify_export (x : Export) {marked : Bool} {newline : Text.Newline} {file : StatementFile}
    (hfile : file.bytes = some (x.bytes marked newline)) (fallback : Text) :
    BankReader.ingCsv.readLines fallback file = .ok x.lines
      ∧ BankReader.ingCsv.identify fallback file = true := by
  obtain ⟨line, lines, hlines, hmark⟩ := x.exists_lines
  have hascii : TextFile.StartsAscii line := by
    obtain ⟨rest, rfl⟩ := hmark
    exact ⟨'I', rfl, by decide⟩
  have hline : ∀ l ∈ line :: lines, IsFileLine l := fun l hl =>
    Export.isFileLine (x := x) (hlines ▸ hl)
  have hread : BankReader.ingCsv.readLines fallback file = .ok x.lines := by
    show TextFile.readLines fallback file.bytes = _
    rw [hfile, Export.bytes, hlines, TextFile.readLines_written hascii hline]
  have haccepts : BankReader.ingCsv.accepts file = true := by
    show TextFile.isText file.bytes = true
    rw [hfile, Export.bytes, hlines, TextFile.isText_written hascii hline]
  refine ⟨hread, ?_⟩
  rw [BankReader.identify, haccepts, hread, hlines]
  exact isIng_of_prefix hmark

/-! ## Importing -/

/-- Of the two templates, the one that reads an export and whether another one is tried before it. A
template that fails with a fault of the statement is passed over like one that finds nothing. -/
theorem runFirst_export (x : Export) (today : Date) :
    ∃ header, Template.runFirst none today x.lines
        [Columns.withCategory.template, Columns.plain.template]
      = .ok (some ⟨header, x.rows.map (·.movement today)⟩) := by
  obtain ⟨header, hrun⟩ := run_export x today
  refine ⟨header, ?_⟩
  have hsome : (x.rows.map (·.movement today)).isEmpty = false := by
    simpa using x.rows_ne_nil
  cases hcolumns : x.columns with
  | withCategory =>
      rw [hcolumns] at hrun
      simp only [Template.runFirst, hrun, hsome, Bool.false_eq_true, if_false]
  | plain =>
      obtain ⟨fault, hfault, hfailed⟩ := run_export_error x hcolumns today
      rw [hcolumns] at hrun
      simp only [Template.runFirst, hfailed, hfault, hrun, hsome, Bool.false_eq_true, if_false,
        if_true]

/-- An importer with the bundled templates that is not told the source of an export file recognizes
it and reads one movement a row, in their order, with the dates, the amount and the currency of the
row and its texts trimmed. An export with categories is read by the first template. The first
template fails on every export without, which the second one reads. -/
theorem parse_export (i : Importer) (hbundled : i.catalogue = Catalogue.bundled) (x : Export)
    (marked : Bool) (newline : Text.Newline) (file : StatementFile)
    (hfile : file.bytes = some (x.bytes marked newline)) (request : ImportRequest)
    (hkind : request.sourceKind = none) :
    i.detect file = some "ing_csv".toList
      ∧ (∃ statement, i.parse request file = .ok (some statement)
        ∧ statement.movements = x.rows.map (·.movement i.today))
      ∧ (∃ statement, x.columns.template.run none i.today x.lines = .ok statement
        ∧ statement.movements = x.rows.map (·.movement i.today))
      ∧ (x.columns = .plain → ∃ fault : Fault, fault.isStatementFault = true
        ∧ Columns.withCategory.template.run none i.today x.lines = .error fault) := by
  obtain ⟨hread, hidentify⟩ := identify_export x hfile i.fallbackEncoding
  have hfind : BankReader.all.find? (fun r => r.identify i.fallbackEncoding file)
      = some BankReader.ingCsv :=
    List.find?_cons_of_pos hidentify
  obtain ⟨header, hfirst⟩ := runFirst_export x i.today
  obtain ⟨header', hrun⟩ := run_export x i.today
  have htemplates : i.catalogue.templatesFor (.text BankReader.ingCsv.kind)
      = [Columns.withCategory.template, Columns.plain.template] := by
    have hother :
        (Value.ofString "barclays_pdf").sameKey (.text BankReader.ingCsv.kind) = false := by
      decide +kernel
    have hown : (Value.ofString "ing_csv").sameKey (.text BankReader.ingCsv.kind) = true := by
      decide +kernel
    rw [hbundled, Catalogue.templatesFor, Catalogue.bundled]
    simp only [List.find?_cons, hother, hown]
    rfl
  refine ⟨?_, ?_, ⟨_, hrun, rfl⟩, fun hplain => run_export_error x hplain i.today⟩
  · rw [Importer.detect, hfind]
    rfl
  · have hbank : BankReader.ingCsv.read i.fallbackEncoding i.catalogue i.today file
        = .ok (some (BankReader.ingCsv.describe file.name
          ⟨header, x.rows.map (·.movement i.today)⟩)) := by
      rw [BankReader.read, hread, htemplates]
      show (Template.runFirst none i.today x.lines _ >>= _) = _
      rw [hfirst]
      rfl
    have has : i.readAs BankReader.ingCsv request.details file
        = .ok (some (BankReader.ingCsv.describe file.name
          ⟨header, x.rows.map (·.movement i.today)⟩)) := by
      cases hdetails : request.details <;> exact hbank
    refine ⟨BankReader.ingCsv.describe file.name ⟨header, x.rows.map (·.movement i.today)⟩, ?_, ?_⟩
    · rw [Importer.parse, hkind]
      simp only [hfind, has, Except.bind, bind]
      rfl
    · unfold BankReader.describe
      split <;> rfl

def Block.single (line : Text) (hline : IsFileLine line) (hfull : Text.isBlankText line = false) :
    Block where
  content := [line]
  closing := []
  content_line := by simpa using ⟨hline, hfull⟩
  closing_line := by decide
  closing_blank := rfl

/-- An export with one row and a line behind the table. -/
def Export.sample : Export where
  columns := .plain
  title := .single "ING-DiBa AG; Umsatzanzeige".toList (by decide) (by decide)
  info := .single "IBAN;DE00 5001".toList (by decide) (by decide)
  order := .single "Sortierung;Datum".toList (by decide) (by decide)
  note := .single "Hinweis".toList (by decide) (by decide)
  headings := "Buchung;Valuta".toList
  rows := [{
    bookingDate := ⟨2024, 2, 1, by decide⟩
    valutaDate := ⟨2024, 2, 2, by decide⟩
    counterparty := " Jürgen Müller ".toList
    postingText := "Lastschrift".toList
    category := []
    subject := "Beitrag".toList
    balance := "1.000,00".toList
    currency := "EUR".toList
    amount := ⟨.minus, "1".toList, ["234".toList], "50".toList, by decide, by decide, by decide,
      by decide, rfl⟩
    isCell := by decide
    isCode := by decide +kernel
    isShort := by decide +kernel }]
  tail := [[], "Ende; des Auszugs".toList]
  title_names_bank := ⟨_, rfl, by decide⟩
  headings_line := by decide
  rows_ne_nil := by simp
  tail_line := by decide
  tail_blank := by simp; decide

/-- A marked file without categories and with both characters at every line end. -/
theorem parse_export_plain :
    ∃ statement, ({ today := ⟨2024, 12, 31, by decide⟩ } : Importer).parse {}
        ⟨"Umsaetze.csv".toList, some (Export.sample.bytes true .both), .ok []⟩
          = .ok (some statement)
      ∧ statement.movements = [{
        bookingDate := some ⟨2024, 2, 1, by decide⟩
        valutaDate := some ⟨2024, 2, 2, by decide⟩
        amount := ⟨true, 123450, -2⟩
        currencyCode := some "EUR".toList
        subject := some "Beitrag".toList
        counterparty := some "Jürgen Müller".toList
        postingDescription := some "Lastschrift".toList }] := by
  obtain ⟨-, ⟨statement, hparse, hmovements⟩, -⟩ := parse_export
    { today := ⟨2024, 12, 31, by decide⟩ } rfl Export.sample true .both
    ⟨"Umsaetze.csv".toList, some (Export.sample.bytes true .both), .ok []⟩ rfl {} rfl
  refine ⟨statement, hparse, hmovements.trans ?_⟩
  decide +kernel

end BankStatement.IngExport
