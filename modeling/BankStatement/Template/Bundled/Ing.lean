import BankStatement.Template.Build

/-!
# Templates for ING

The CSV export of account movements comes in two layouts, with and without a column for categories;
the one with categories is tried first. The PDF statement of an account spreads a movement over two
lines: a booking line with date, posting text, counterparty and amount, and a valuta line with the
purpose.

The two layouts of the export share their sections and all columns but one. A row without categories
is one column short for the first template, which fails on it and leaves the file to the second.
-/

namespace BankStatement.Bundled

/-! ## CSV export -/

/-- The blocks in front of the table of a CSV export. -/
def ingCsvBlocks : List Section := [
  .skip "Title" [],
  { name := .ofString "AccountInfo"
    kind := .keyValue
    keys := [
      .always "IBAN" "IBAN",
      .first "Kunde" "AccountHolder",
      .first "Kontoname" "StatementDescription"] },
  .skip "Sortierung" [],
  .skip "Hinweis" []]

def ingCsvTable (columns : List Column) : Section :=
  { name := .ofString "table", kind := .table, containsHeader := true, columns }

/-- The first four columns of a CSV export. -/
def ingCsvLeft : List Column := [
  .named "Buchung" "PostingDate",
  .named "Valuta" "ValutaDate",
  .named "Auftraggeber/Empfänger" "SourceName",
  .named "Buchungstext" "PostingDescription"]

/-- The last columns of a CSV export. -/
def ingCsvRight : List Column := [
  .named "Verwendungszweck" "Description",
  .named "Saldo" "",
  .named "Währung" "CurrencyCode",
  .named "Betrag" "Amount",
  .named "Währung" "CurrencyCode"]

def ingCsvWithCategory : Template :=
  { name := .ofString "ING CSV (mit Kategorie)"
    source := .ofString "ing_csv"
    sections := ingCsvBlocks ++ [ingCsvTable (ingCsvLeft ++ .named "Kategorie" "" :: ingCsvRight)] }

def ingCsvPlain : Template :=
  { name := .ofString "ING CSV"
    source := .ofString "ing_csv"
    sections := ingCsvBlocks ++ [ingCsvTable (ingCsvLeft ++ ingCsvRight)] }

/-! ## PDF statement -/

/-- The block of account data in front of the table. -/
def ingPdfInfo : Section :=
  { name := .ofString "AccountInfo"
    kind := .keyValue
    separator := .ofString " "
    endKeywords := ["Buchung Buchung".toList]
    keys := [
      .always "Extra-Konto Nummer" "BankAccountNo",
      .always "Girokonto Nummer" "BankAccountNo",
      .first "Kontoinhaber" "AccountHolder"] }

def ingPdfBooking : String :=
  "^(?P<PostingDate>\\d{2}\\.\\d{2}\\.\\d{4})\\s+(?P<PostingDescription>\\S+)"
    ++ "(?:\\s+(?P<SourceName>.*?))?(?:\\s+(?P<Amount>[+-]?\\d{1,3}(?:\\.\\d{3})*,\\d{2}))?$"

def ingPdfValuta : String :=
  "^(?P<ValutaDate>\\d{2}\\.\\d{2}\\.\\d{4})\\s+(?P<Description>.+)$"

def ingPdfTable : Section :=
  { name := .ofString "table"
    kind := .table
    fieldSeparator := .text noSeparator
    endKeywords := ["Abschluss für Konto".toList, "Neuer Saldo".toList]
    columns := [.primary ingPdfBooking 1, .additional ingPdfValuta none] }

def ingPdf : Template :=
  { name := .ofString "ING Kontoauszug"
    source := .ofString "ing_pdf"
    sections := [ingPdfInfo, ingPdfTable, .skip "BlockEnd" []]
    replacements := [
      { search := .ofString "Ueberweisung", replacement := .ofString "Überweisung" },
      { search := .ofString "Terminueberw.", replacement := .ofString "Terminüberweisung" }] }

end BankStatement.Bundled
