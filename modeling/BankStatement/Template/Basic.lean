import BankStatement.Fault
import BankStatement.Pattern.Node

/-!
# Templates

A template says how one layout of a bank statement is split into sections and how values are taken
from the lines of each section.

Templates come from documents and keep what they are given. Labels can be any value. A parameter
that has to be a text when it is used (a separator, a date format, a replacement) is checked at that
point and not before, so a template with an unusable parameter works as long as the parameter is not
needed; `Value.asText` is that check.
-/

namespace BankStatement

/-- The text of a value that is used as a text. -/
def Value.asText : Value → Except Fault Text
  | .text t => .ok t
  | _ => .error .wrongKind

/-- What a section consists of. -/
inductive SectionKind where
  /-- Lines that are passed over. -/
  | ignore
  /-- Labels with values. -/
  | keyValue
  /-- One movement per line. -/
  | table
  /-- Movements between other lines. -/
  | dynamicTable
  deriving DecidableEq, Repr

def SectionKind.label : SectionKind → Text
  | .ignore => "ignore".toList
  | .keyValue => "keyvalue".toList
  | .table => "table".toList
  | .dynamicTable => "dyn_table".toList

/-- How a value joins one that is already there. -/
inductive Mode where
  /-- It takes its place. -/
  | always
  /-- It is dropped unless the place is empty. -/
  | onlyWhenEmpty
  deriving DecidableEq, Repr

def Mode.label : Mode → Text
  | .always => "always".toList
  | .onlyWhenEmpty => "onlywhenempty".toList

/-- When a rule is tried on a line. -/
inductive Role where
  /-- On every line. -/
  | primary
  /-- On the lines that continue a movement. -/
  | additional
  deriving DecidableEq, Repr

def Role.label : Role → Text
  | .primary => "primary".toList
  | .additional => "additional".toList

/-- A column of a table, by its position in the line. -/
structure Field where
  /-- The label of the column. -/
  name : Value
  /-- The variable the column's value goes to; an empty one skips the column. -/
  target : Value
  /-- The number of characters in a fixed-width table; zero takes the rest of the line. -/
  length : Int
  multiplier : Int
  deriving Repr, BEq

/-- A pattern tried on a whole line. Every named group goes to the variable of its name. -/
structure Rule where
  pattern : Pattern
  multiplier : Int
  role : Role
  /-- The number of continuation lines after which a movement is finished. -/
  maxOccurrence : Option Int
  deriving Repr, BEq

/-- A column of a table is positional or a rule. -/
inductive Column where
  | field (f : Field)
  | rule (r : Rule)
  deriving Repr, BEq

/-- A label of a key-value section. -/
structure Key where
  name : Value
  target : Value
  mode : Mode
  deriving Repr, BEq

structure Section where
  name : Value
  kind : SectionKind
  endKeywords : List Text := []
  /-- Between the label and the value of a key. -/
  separator : Value := .ofString ";"
  /-- Between the columns of a table. -/
  fieldSeparator : Value := .ofString ";"
  /-- The only line length a dynamic table reads; zero reads all lengths. -/
  recordLength : Int := 0
  containsHeader : Bool := false
  removeDuplicates : Bool := false
  stopOnError : Bool := false
  ignoreKeywords : List Text := []
  columns : List Column := []
  keys : List Key := []
  deriving Repr, BEq

/-- The field separator that makes a table one of fixed widths. -/
def noSeparator : Text := "#None#".toList

namespace Section

def fields (s : Section) : List Field :=
  s.columns.filterMap fun
    | .field f => some f
    | .rule _ => none

def rules (s : Section) : List Rule :=
  s.columns.filterMap fun
    | .rule r => some r
    | .field _ => none

def rulesOf (s : Section) (role : Role) : List Rule := s.rules.filter (·.role == role)

def isFixedWidth (s : Section) : Bool :=
  match s.fieldSeparator with
  | .text t => t == noSeparator
  | _ => false

def endsAt (s : Section) (line : Text) : Bool := s.endKeywords.any fun k => k.occursIn line

def ignores (s : Section) (line : Text) : Bool := s.ignoreKeywords.any fun k => k.occursIn line

end Section

structure Replacement where
  search : Value
  replacement : Value
  deriving Repr, BEq

/-- A template: one layout of the statements of a source. -/
structure Template where
  name : Value
  /-- The source kind it belongs to. -/
  source : Value
  sections : List Section
  replacements : List Replacement := []
  /-- The date layouts, tried in order. -/
  dateFormats : List Value := ["%d.%m.%Y", "%d.%m.%y", "%Y-%m-%d"].map Value.ofString
  decimalSeparator : Value := .ofString ","
  thousandsSeparator : Value := .ofString "."
  deriving Repr, BEq

/-- Applies one correction; one without a search text changes nothing. -/
def Replacement.apply (r : Replacement) (t : Text) : Except Fault Text :=
  if r.search.isTruthy then do
    let search ← r.search.asText
    let replacement ← r.replacement.asText
    pure (Text.replace search replacement t)
  else pure t

/-- Applies the corrections of a template, each to the result of the one before. -/
def Template.correct (template : Template) (t : Text) : Except Fault Text :=
  template.replacements.foldlM (fun t r => r.apply t) t

end BankStatement
