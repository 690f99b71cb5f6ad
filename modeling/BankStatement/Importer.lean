import BankStatement.Bank.Reader
import BankStatement.Draft

/-!
# Importing files

The importer finds out which bank a file comes from, has it read, and hands out the statement, a
table of its movements, or a draft.

A file goes to the reader that the caller names or else to the first one that recognizes it; no
other reader is asked if that one finds nothing. The difference between a file that is not
recognized and one that is recognized and holds nothing is in the fault: the first one names no
source kind.

The date of the import is part of the importer. It decides which movements are previews, and reading
a file again on another day may give other marks.
-/

namespace BankStatement

/-- What an import needs to know besides the file. -/
structure Importer where
  catalogue : Catalogue := Catalogue.bundled
  fallbackEncoding : Text := "cp1252".toList
  today : Date

structure ImportRequest where
  /-- The source kind, if the caller knows it. -/
  sourceKind : Option Text := none
  /-- Whether the file is a detail document. -/
  details : Bool := false
  /-- Whether a file that is not recognized is a fault. -/
  require : Bool := false
  deriving DecidableEq, Repr

namespace Importer

/-- The source kind of the first reader that recognizes a file. -/
def detect (i : Importer) (file : StatementFile) : Option Text :=
  (BankReader.all.find? fun r => r.identify i.fallbackEncoding file).map (·.kind)

def sampleBytes : Nat := 500

/-- The beginning of a text file, for messages. -/
def sample (bytes : Option Bytes) : Text :=
  if Pdf.isPdf bytes then [] else Utf8.decodeLenient ((bytes.getD []).take sampleBytes)

/-- Reads a file with the reader of a kind. -/
def readAs (i : Importer) (r : BankReader) (details : Bool) (file : StatementFile) :
    Except Fault (Option Statement) :=
  if details then r.readDetails i.fallbackEncoding i.catalogue i.today file
  else r.read i.fallbackEncoding i.catalogue i.today file

/-- The statement that was found; none is a fault if one is required. -/
def demand (request : ImportRequest) (kind : Option Text) (file : StatementFile) :
    Option Statement → Except Fault (Option Statement)
  | some s => .ok (some s)
  | none =>
    if request.require then .error (.unrecognized file.name kind (sample file.bytes)) else .ok none

/-- Reads a file as what the caller says it is, or as what it is recognized to be. -/
def parse (i : Importer) (request : ImportRequest) (file : StatementFile) :
    Except Fault (Option Statement) :=
  match request.sourceKind with
  | some kind =>
    match BankReader.ofKind? kind with
    | none => .error (.unknownSource kind)
    | some r => do demand request (some kind) file (← i.readAs r request.details file)
  | none =>
    match BankReader.all.find? fun r => r.identify i.fallbackEncoding file with
    | none => demand request none file none
    | some r => do demand request (some r.kind) file (← i.readAs r request.details file)

def draft (i : Importer) (newId : Nat → EntityId) (request : ImportRequest) (file : StatementFile) :
    Except Fault (Option Draft) := do
  let found ← i.parse { request with require := false } file
  pure (found.map (Draft.ofStatement newId file.name))

end Importer

end BankStatement
