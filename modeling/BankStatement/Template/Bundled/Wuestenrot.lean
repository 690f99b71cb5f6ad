import BankStatement.Template.Build

/-!
# The template for Wüstenrot

A statement of a building savings account. The counterparty follows the booking line on up to two
lines of its own.

The rule for the counterparty takes printable ASCII and is not anchored, so of a line with an umlaut
it takes the first part that has none. The bound of two lines counts the lines that it finds
something in.
-/

namespace BankStatement.Bundled

def wuestenrotInfo : Section :=
  { name := .ofString "AccountInfo"
    kind := .keyValue
    separator := .ofString ":"
    endKeywords := ["Anfangssaldo".toList]
    keys := [.always "Kontonummer" "BankAccountNo", .always "IBAN" "IBAN"] }

def wuestenrotBooking : String :=
  "(?P<PostingDate>\\d{2}\\.\\d{2}\\.\\d{4})\\s+(?P<PostingDescription>.+?)\\s+"
    ++ "(?P<ValutaDate>\\d{2}\\.\\d{2}\\.\\d{4})\\s+(?P<Amount>-?\\s?\\d{1,3}(?:\\.\\d{3})*,\\d{2})"

def wuestenrotCounterparty : String := "(?P<SourceName>[\\x20-\\x7E]+)"

def wuestenrotTable : Section :=
  { name := .ofString "table"
    kind := .table
    fieldSeparator := .text noSeparator
    endKeywords := ["Endsaldo".toList]
    columns := [.primary wuestenrotBooking 1, .additional wuestenrotCounterparty (some 2)] }

def wuestenrot : Template :=
  { name := .ofString "Wüstenrot Kontoauszug"
    source := .ofString "wuestenrot_pdf"
    sections := [.skip "Title" ["Nr."], wuestenrotInfo, wuestenrotTable, .skip "BlockEnd" []] }

end BankStatement.Bundled
