import BankStatement.Pattern.Reader
import BankStatement.Template.Basic

/-!
# Templates from documents

`Template.ofValue` reads a template from a document. Missing parts take defaults; words from closed
lists (section types, modes, roles) are compared without their case and the white space around them;
numbers may be written as texts. The first thing that cannot be read is the fault of the template.

A value of the wrong kind is a different fault from a word that is not in its list or a text that is
no number. Only the second sort is skippable when a folder is loaded, so each reader here keeps to
the order in which the parts are looked at, and to the fault that each look can have.
-/

namespace BankStatement

namespace Value

/-! ## Looking into documents -/

/-- The members of an object; nothing else has members. -/
def asObject : Value → Except Fault (List (Text × Value))
  | .object members => .ok members
  | _ => .error .notSupported

/-- The entry under a name; only objects have named entries. -/
def entry (name : String) : Value → Except Fault Value
  | .object members =>
    match member? name.toList members with
    | some v => .ok v
    | none => .error .missingEntry
  | _ => .error .wrongKind

/-- The elements of a value: of a list its items, of a text its characters, of an object its
names. -/
def elements : Value → Except Fault (List Value)
  | .list items => .ok items
  | .text t => .ok (t.map fun c => .text [c])
  | .object members => .ok (members.map fun (name, _) => .text name)
  | _ => .error .wrongKind

/-- Whether a name occurs in a value: among the names of an object, in a text, among the items of a
list. -/
def mentions (name : String) : Value → Except Fault Bool
  | .object members => .ok (member? name.toList members).isSome
  | .text t => .ok (Text.occursIn name.toList t)
  | .list items => .ok (items.any (· == .ofString name))
  | _ => .error .wrongKind

/-- The member of a name, or another value when there is none. -/
def memberOr (name : String) (members : List (Text × Value)) (other : Value) : Value :=
  (member? name.toList members).getD other

/-- The value as a whole number: a fraction is cut off, a text is read, truth counts as one. -/
def asInt : Value → Except Fault Int
  | .int n => .ok n
  | .bool b => .ok (if b then 1 else 0)
  | .real (.finite negative mantissa exponent) => .ok (Binary.truncate negative mantissa exponent)
  | .real (.infinite _) => .error .unbounded
  | .real .notANumber => .error .notANumber
  | .text t =>
    match Text.toInt? t with
    | some n => .ok n
    | none => .error .notANumber
  | _ => .error .wrongKind

end Value

/-! ## Words and keywords -/

/-- The value of a word from a closed list. -/
def readWord {α : Type} (vocabulary : Vocabulary) (label : α → Text) (choices : List α)
    (given : Value) : Except Fault α :=
  let word := Text.lower (Text.strip given.plain)
  match choices.find? fun a => label a == word with
  | some a => .ok a
  | none => .error (.unknownWord vocabulary given)

def SectionKind.ofValue : Value → Except Fault SectionKind :=
  readWord .sectionType SectionKind.label [.ignore, .keyValue, .table, .dynamicTable]

def Mode.ofValue : Value → Except Fault Mode :=
  readWord .variableMode Mode.label [.always, .onlyWhenEmpty]

def Role.ofValue : Value → Except Fault Role :=
  readWord .ruleRole Role.label [.primary, .additional]

/-- The keywords among some values. Blank ones would stand in every line and are dropped. -/
def keywordsAmong : List Value → Except Fault (List Text)
  | [] => .ok []
  | v :: rest =>
    match v with
    | .text t => do
      let others ← keywordsAmong rest
      pure (if Text.isBlankText t then others else t :: others)
    | v => if v.isTruthy then .error .notSupported else keywordsAmong rest

/-- Keywords: a list of them, or a text that holds them between bars. -/
def readKeywords : Value → Except Fault (List Text)
  | .null => .ok []
  | .text t => keywordsAmong ((Text.splitOn ['|'] t).map .text)
  | v => do keywordsAmong (← v.elements)

/-! ## Sections -/

/-- The number that a column's values are multiplied by. -/
def readMultiplier (members : List (Text × Value)) : Except Fault Int :=
  (Value.memberOr "multiplier" members (.int 1)).asInt

def Rule.ofMembers (members : List (Text × Value)) (patternValue : Value) : Except Fault Rule := do
  let pattern ← Pattern.ofText (← patternValue.asText)
  let most := Value.memberOr "max_occurrence" members .null
  let multiplier ← readMultiplier members
  let role ← Role.ofValue (Value.memberOr "role" members (.ofString "primary"))
  let maxOccurrence ← if most.isTruthy then (do pure (some (← most.asInt))) else pure none
  pure { pattern, multiplier, role, maxOccurrence }

def Field.ofMembers (members : List (Text × Value)) : Except Fault Field := do
  let length ← ((Value.memberOr "length" members (.int 0)).orElse (.int 0)).asInt
  let multiplier ← readMultiplier members
  pure {
    name := Value.memberOr "name" members (.text [])
    target := (Value.memberOr "variable" members .null).orElse (.text [])
    length, multiplier }

/-- A column: a rule if it has a pattern, else a field. -/
def Column.ofValue (v : Value) : Except Fault Column := do
  if ← v.mentions "pattern" then
    let patternValue ← v.entry "pattern"
    pure (.rule (← Rule.ofMembers (← v.asObject) patternValue))
  else pure (.field (← Field.ofMembers (← v.asObject)))

def Key.ofValue (v : Value) : Except Fault Key := do
  let name ← v.entry "name"
  let members ← v.asObject
  let target := (Value.memberOr "variable" members .null).orElse (.text [])
  let mode ← Mode.ofValue (Value.memberOr "mode" members (.ofString "always"))
  pure { name, target, mode }

def Section.ofValue (v : Value) : Except Fault Section := do
  let members ← v.asObject
  let get := fun name => Value.memberOr name members .null
  let kind ← SectionKind.ofValue (get "type")
  let keys ← (← (Value.memberOr "keys" members (.list [])).elements).mapM Key.ofValue
  let endKeywords ← readKeywords (get "end_keywords")
  let recordLength ← ((get "record_length").orElse (.int 0)).asInt
  let ignoreKeywords ← readKeywords (get "ignore_keywords")
  let columns ← (← (Value.memberOr "columns" members (.list [])).elements).mapM Column.ofValue
  pure {
    name := Value.memberOr "name" members (.text kind.label)
    kind, endKeywords
    separator := (get "separator").orElse (.ofString ";")
    fieldSeparator := (get "field_separator").orElse (.ofString ";")
    recordLength
    containsHeader := (get "contains_header").isTruthy
    removeDuplicates := (get "remove_duplicates").isTruthy
    stopOnError := (get "stop_on_error").isTruthy
    ignoreKeywords, columns, keys }

/-! ## Templates -/

def Replacement.ofValue (v : Value) : Except Fault Replacement := do
  let members ← v.asObject
  pure {
    search := Value.memberOr "from" members (.text [])
    replacement := Value.memberOr "to" members (.text []) }

/-- A template; `source` is the source kind of one that names none itself. -/
def Template.ofValue (source : Value) (v : Value) : Except Fault Template := do
  let members ← v.asObject
  let get := fun name => Value.memberOr name members .null
  let given := get "sections"
  if !given.isTruthy then .error (.noSections (get "name"))
  else
    let standard : Template := { name := .null, source := .null, sections := [] }
    let dateFormats ← match Value.member? "date_formats".toList members with
      | some formats => formats.elements
      | none => pure standard.dateFormats
    let sections ← (← given.elements).mapM Section.ofValue
    let replacements ←
      (← (Value.memberOr "replacements" members (.list [])).elements).mapM Replacement.ofValue
    pure {
      name := Value.memberOr "name" members (.ofString "unnamed")
      source := Value.memberOr "source" members source
      sections, replacements, dateFormats
      decimalSeparator := Value.memberOr "decimal_separator" members standard.decimalSeparator
      thousandsSeparator :=
        Value.memberOr "thousands_separator" members standard.thousandsSeparator }

end BankStatement
