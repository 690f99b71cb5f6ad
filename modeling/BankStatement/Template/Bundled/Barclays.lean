import BankStatement.Template.Build

/-!
# Templates for Barclays credit cards

The overview layout has a table of general movements, a table of card movements in free form and two
blocks of the fixed-width card table. The plain layout has one block of the card table.

The columns of the fixed-width table are shared by both layouts, and so are the keywords that end
it. The two free tables have patterns of their own, which differ in the notation of amounts: the
card movements may have points between thousands, the general ones may not.
-/

namespace BankStatement.Bundled

def barclaysCardColumns : List Column := [
  .wide "Buchung" "PostingDate" 11,
  .wide "Valuta" "ValutaDate" 11,
  .wide "Auftraggeber/Empfänger" "SourceName" 23,
  .wide "Ort" "" 14,
  .wide "Land" "" 3,
  .wide "Karte" "" 15,
  .wide "Betrag" "Amount" 0]

/-- The keywords that end a card table. -/
def barclaysCardEnd : List Text := ["Umsätze ".toList, "Per Lastschrift dankend erhalten".toList]

def barclaysGeneral : String :=
  "^(?:\\s*(?P<Buchungsart>\\w+):)?\\s*(?P<SourceName>.*?)\\s+"
    ++ "(?P<PostingDate>\\d{2}\\.\\d{2}\\.\\d{2})\\s+(?P<Gesamtbetrag>\\d{1,3},\\d{2})-\\s+"
    ++ "(?P<Description>.+?)\\s+(?P<Amount>\\d{1,3},\\d{2})"

def barclaysVisa : String :=
  "^(?P<PostingDate>\\d{2}\\.\\d{2}\\.\\d{4})\\s+(?P<ValutaDate>\\d{2}\\.\\d{2}\\.\\d{4})\\s+"
    ++ "(?P<SourceName>.+?)\\s+(?P<Card>Visa)\\s+(?P<Amount>\\d{1,3}(?:\\.\\d{3})*,\\d{2}[-+])"

def barclaysGeneralTable : Section :=
  { name := .ofString "general"
    kind := .table
    fieldSeparator := .text noSeparator
    endKeywords := ["Wie mit Ihnen vereinbart,".toList]
    columns := [.primary barclaysGeneral (-1)] }

def barclaysVisaTable : Section :=
  { name := .ofString "visa"
    kind := .table
    fieldSeparator := .text noSeparator
    endKeywords := barclaysCardEnd
    stopOnError := true
    columns := [.primary barclaysVisa 1] }

/-- A block of the card table in the overview layout. -/
def barclaysCardBlock (name : String) : Section :=
  { name := .ofString name
    kind := .table
    fieldSeparator := .text noSeparator
    endKeywords := barclaysCardEnd
    stopOnError := true
    ignoreKeywords := ["Allgemeine Umsätze", "Alter Saldo", "Hauptkarte/n", "Umsatzübersicht"].map
      (·.toList)
    columns := barclaysCardColumns }

def barclaysOverview : Template :=
  { name := .ofString "Barclays Kreditkarte (Umsatzübersicht)"
    source := .ofString "barclays_pdf"
    sections := [
      .skip "Block1" ["Allgemeine Umsätze "],
      barclaysGeneralTable,
      .skip "Block2" ["Hauptkarte/n", "Umsatzübersicht"],
      barclaysVisaTable,
      .skip "Block3" ["Hauptkarte/n", "Umsatzübersicht"],
      barclaysCardBlock "card",
      .skip "Block4" ["Hauptkarte/n", "Umsatzübersicht"],
      barclaysCardBlock "card_continued",
      .skip "BlockEnd" []] }

def barclaysCardTable : Section :=
  { name := .ofString "card"
    kind := .table
    fieldSeparator := .text noSeparator
    endKeywords := barclaysCardEnd
    ignoreKeywords := ["Allgemeine Umsätze", "Alter Saldo", "Hauptkarte/n"].map (·.toList)
    columns := barclaysCardColumns }

def barclaysPlain : Template :=
  { name := .ofString "Barclays Kreditkarte"
    source := .ofString "barclays_pdf"
    sections := [.skip "Block1" ["Hauptkarte/n"], barclaysCardTable, .skip "BlockEnd" []] }

end BankStatement.Bundled
