import BankStatement.Document.Value

/-!
# Causes of failure

Everything that can go wrong, as causes. A statement fault belongs to one statement or template: a
template that meets one is passed over. The others are faults of the documents, bytes and settings
the program is given, and reach the caller.

`Fault.message?` gives the wording of the faults that have one.

Causes carry what their messages quote, which is the value as it was given and not as it was
understood. Two faults are told apart only if the program tells them apart, by what it catches or by
what it says.
-/

namespace BankStatement

/-- The keywords of a template that come from a closed list. -/
inductive Vocabulary where
  | sectionType
  | variableMode
  | ruleRole
  deriving DecidableEq, Repr

/-- Why an operation failed. -/
inductive Fault where
  /-- A template names a section type, mode or role that does not exist. -/
  | unknownWord (vocabulary : Vocabulary) (given : Value)
  /-- A template without sections. -/
  | noSections (name : Value)
  /-- A rule whose pattern cannot be read. -/
  | invalidPattern
  /-- A value that is no date, amount or quantity; `expected` are the date formats tried. -/
  | unreadable (target : Text) (value : Option Text) (expected : Option (List Text))
  /-- A fixed-width field longer than what is left of the line. -/
  | fieldTooShort (name : Value) (needed : Int) (left : Nat)
  /-- A field without a column of its own. -/
  | fieldMissing (name : Value) (columns : Nat)
  /-- No reader or template produced movements for a file. -/
  | unrecognized (fileName : Text) (sourceKind : Option Text) (sample : Text)
  /-- A classification without a contact of the account holder. -/
  | noSelfContact
  /-- A source kind that no reader handles. -/
  | unknownSource (kind : Text)
  /-- A library for page texts that is not known. -/
  | unknownBackend (name : Text)
  /-- A value of the wrong kind where a text, number, list or object is needed. -/
  | wrongKind
  /-- An operation that the value at hand does not have. -/
  | notSupported
  /-- An entry that a document must have. -/
  | missingEntry
  /-- A text or number that is no whole number. -/
  | notANumber
  /-- A number that is too great, or has no whole part at all. -/
  | unbounded
  /-- A text that is no JSON document. -/
  | malformedJson
  /-- Bytes that their encoding does not allow. -/
  | malformedBytes
  /-- An encoding that is not known. -/
  | unknownEncoding
  /-- A source that cannot be opened. -/
  | unreadableSource
  /-- A folder where a file is needed. -/
  | isFolder
  /-- A date layout that uses one directive twice. -/
  | repeatedDirective
  /-- A setting of the wrong kind or outside its choices. -/
  | invalidSetting
  /-- A settings file that is no YAML document. -/
  | malformedYaml
  /-- A logging level that is not known. -/
  | unknownLevel
  deriving Repr, BEq, Inhabited

namespace Fault

def vocabularyName : Vocabulary → Text
  | .sectionType => "section type".toList
  | .variableMode => "variable mode".toList
  | .ruleRole => "rule role".toList

/-- Faults of one statement or template, which lead to the next template being tried. -/
def isStatementFault : Fault → Bool
  | .unknownWord .. | .noSections _ | .invalidPattern | .unreadable .. | .fieldTooShort ..
  | .fieldMissing .. | .unrecognized .. => true
  | _ => false

/-- A text in quotation marks, or the word for no value. -/
def shownText : Option Text → Text
  | some t => Text.quoted t
  | none => Value.shown .null

def sampleLength : Nat := 200

/-- The wording of a fault, where it has one of its own. -/
def message? : Fault → Option Text
  | .unknownWord vocabulary given =>
    some ("Unknown ".toList ++ vocabularyName vocabulary ++ ": ".toList ++ given.shown)
  | .noSections name => some ("Template ".toList ++ name.shown ++ " has no sections".toList)
  | .unreadable target value expected =>
    let reason := match expected with
      | some formats => ": expected one of ".toList ++ Text.joinWith ", ".toList formats
      | none => []
    some ("Cannot parse ".toList ++ target ++ " from ".toList ++ shownText value ++ reason)
  | .fieldTooShort name needed left =>
    some ("Field ".toList ++ name.shown ++ " needs ".toList ++ Text.ofInt needed
      ++ " characters, ".toList ++ Text.ofNat left ++ " left".toList)
  | .fieldMissing name columns =>
    some ("Field ".toList ++ name.shown ++ " missing: line has ".toList ++ Text.ofNat columns
      ++ " columns".toList)
  | .unrecognized fileName sourceKind sample =>
    let details :=
      (if fileName.isEmpty then [] else ["File: ".toList ++ fileName])
      ++ (match sourceKind with
        | some kind => if kind.isEmpty then [] else ["Source: ".toList ++ kind]
        | none => [])
      ++ (if sample.isEmpty then []
        else ["Sample: ".toList ++ sample.take sampleLength ++ "...".toList])
    let headline := "Statement format not recognized".toList
    some (if details.isEmpty then headline
      else headline ++ '\n' :: Text.joinWith ['\n'] details)
  | .noSelfContact => some "Classification needs a contact of type Self".toList
  | .unknownSource kind => some ("Unknown source kind: ".toList ++ kind)
  | .unknownBackend name =>
    some ("Unknown PDF backend: ".toList ++ Text.quoted name
      ++ " (expected one of pdfplumber, pypdf)".toList)
  | _ => none

end Fault

end BankStatement
