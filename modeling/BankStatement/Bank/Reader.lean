import BankStatement.Bank.Settlement
import BankStatement.Session.Run
import BankStatement.Source.Pages
import BankStatement.Source.TextFile
import BankStatement.Template.Catalogue

/-!
# Readers for banks

A reader knows one source kind: whether a file can be one of its statements, by format and by a mark
of the bank in the first lines, and how its lines are read with the templates of the kind. Readers
are asked in a fixed order, text exports first.

The readers share one form and differ in their values: the kind, the format, the mark of the bank,
the policy for continuation lines, and whether there are settlements. Recognizing a file and reading
it decode it separately, and a fault in the first means that the file is not one of the bank.

A statement gets a description of its own where its header has none; nothing else is added to what
the templates find.
-/

namespace BankStatement

/-- A file to be read. Where it is a PDF document, `pages` are the texts of its pages, or the fault
of opening it. -/
structure StatementFile where
  name : Text
  bytes : Option Bytes
  pages : Except Fault (List (Option Text))

inductive FileFormat where
  | delimited
  | pdf
  deriving DecidableEq, Repr

/-- A reader for the statements of one source kind. -/
structure BankReader where
  kind : Text
  bankName : Text
  format : FileFormat
  /-- Whether lines belong to a statement of this bank. -/
  recognizes : List Text → Bool
  /-- How lines that continue a movement are recognized, where there are any. -/
  policy : Option Continuation
  /-- Whether the bank's detail documents are settlements. -/
  hasSettlements : Bool

namespace BankReader

/-! ## Marks of the banks -/

def firstContentLine (lines : List Text) : Text := (lines.findSome? Text.strip?).getD []

/-- ING statements name the bank on their first line. -/
def isIng (lines : List Text) : Bool := "ING-DiBa AG".toList.isPrefixOf (firstContentLine lines)

/-- Barclays statements name the issuing bank in their letterhead, the first ten lines. -/
def isBarclays (lines : List Text) : Bool :=
  (lines.take 10).any fun line => "BAWAG AG".toList.isPrefixOf line

/-- Wüstenrot statements name the bank anywhere in their first twenty lines. -/
def isWuestenrot (lines : List Text) : Bool :=
  (lines.take 20).any fun line => Text.occursIn "Wüstenrot".toList line

/-! ## The readers -/

/-- ING exports, one movement per row. -/
def ingCsv : BankReader where
  kind := "ing_csv".toList
  bankName := "ING".toList
  format := .delimited
  recognizes := isIng
  policy := none
  hasSettlements := false

/-- ING statements: a booking line with date and amount, then a line with the purpose. The detail
documents of the bank are settlements. -/
def ingPdf : BankReader where
  kind := "ing_pdf".toList
  bankName := "ING".toList
  format := .pdf
  recognizes := isIng
  policy := some { requireAmount := true }
  hasSettlements := true

/-- Barclays card statements, one movement per line. -/
def barclaysPdf : BankReader where
  kind := "barclays_pdf".toList
  bankName := "Barclays".toList
  format := .pdf
  recognizes := isBarclays
  policy := none
  hasSettlements := false

/-- Wüstenrot statements: a booking line, then lines with the counterparty. -/
def wuestenrotPdf : BankReader where
  kind := "wuestenrot_pdf".toList
  bankName := "Wüstenrot".toList
  format := .pdf
  recognizes := isWuestenrot
  policy := some {}
  hasSettlements := false

/-- All readers, in the order in which they are asked. -/
def all : List BankReader := [ingCsv, ingPdf, barclaysPdf, wuestenrotPdf]

def ofKind? (kind : Text) : Option BankReader := all.find? fun r => r.kind == kind

/-! ## Reading files -/

def accepts (r : BankReader) (file : StatementFile) : Bool :=
  match r.format with
  | .delimited => TextFile.isText file.bytes
  | .pdf => Pdf.isPdf file.bytes

def readLines (r : BankReader) (fallbackEncoding : Text) (file : StatementFile) :
    Except Fault (List Text) :=
  match r.format with
  | .delimited => TextFile.readLines fallbackEncoding file.bytes
  | .pdf => file.pages.map mergePages

/-- Whether a file is a statement of this bank; one that cannot be read is not. -/
def identify (r : BankReader) (fallbackEncoding : Text) (file : StatementFile) : Bool :=
  r.accepts file &&
    match r.readLines fallbackEncoding file with
    | .ok lines => r.recognizes lines
    | .error _ => false

/-- The description of a statement that has none of its own. -/
def defaultDescription (r : BankReader) (fileName : Text) : Text :=
  r.bankName ++ " Import ".toList ++ fileName

/-- Fills in the description of a statement that has none of its own. -/
def describe (r : BankReader) (fileName : Text) (s : Statement) : Statement :=
  if s.header.description.isEmpty then
    { s with header := { s.header with description := r.defaultDescription fileName } }
  else s

def read (r : BankReader) (fallbackEncoding : Text) (catalogue : Catalogue) (today : Date)
    (file : StatementFile) : Except Fault (Option Statement) := do
  let lines ← r.readLines fallbackEncoding file
  let found ← Template.runFirst r.policy today lines (catalogue.templatesFor (.text r.kind))
  pure (found.map (r.describe file.name))

/-- Reads a file as a detail document: a settlement where the bank has them, else a statement. -/
def readDetails (r : BankReader) (fallbackEncoding : Text) (catalogue : Catalogue) (today : Date)
    (file : StatementFile) : Except Fault (Option Statement) :=
  if r.hasSettlements then do
    let lines ← r.readLines fallbackEncoding file
    pure (Settlement.read lines file.name)
  else r.read fallbackEncoding catalogue today file

end BankReader

end BankStatement
