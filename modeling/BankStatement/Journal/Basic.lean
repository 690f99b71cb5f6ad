import BankStatement.Fault
import BankStatement.Journal.Message
import BankStatement.Text.Case

/-!
# The journal

What is going on is written to a journal of one record per event. Every record names the import it
belongs to, its level, the part of the program it comes from, a message, and further fields by name.
A record below the threshold of the journal is not written.

An import that has no id of its own gets a fresh one for as long as it runs (`during`).
-/

namespace BankStatement

/-- The id that the records of one import share. -/
inductive ImportId where
  /-- Given by the caller. -/
  | given (t : Text)
  /-- Drawn for this import. -/
  | fresh
  deriving DecidableEq, Repr

namespace ImportId

def freshName : Text := "<fresh>".toList

def toText : ImportId → Text
  | given t => t
  | fresh => freshName

/-- The id a caller gives; an empty one counts as none given. -/
def ofText (t : Text) : ImportId := if t.isEmpty then fresh else given t

end ImportId

namespace Level

def names : List (String × Int) :=
  [("CRITICAL", 50), ("FATAL", 50), ("ERROR", 40), ("WARN", 30), ("WARNING", 30), ("INFO", 20),
   ("DEBUG", 10), ("NOTSET", 0)]

def ofName? (t : Text) : Option Int :=
  (names.find? fun (name, _) => name.toList = t).map (·.2)

/-- The level that a setting asks for: a number, or a name in any case. -/
def ofValue (v : Value) : Except Fault Int :=
  match v with
  | .text t => match ofName? (Text.upper t) with
    | some level => .ok level
    | none => .error .unknownLevel
  | .int n => .ok n
  | .bool b => .ok (if b then 1 else 0)
  | _ => .error .wrongKind

def name (level : Int) : Text :=
  if level = 50 then "CRITICAL".toList
  else if level = 40 then "ERROR".toList
  else if level = 30 then "WARNING".toList
  else if level = 20 then "INFO".toList
  else if level = 10 then "DEBUG".toList
  else if level = 0 then "NOTSET".toList
  else "Level ".toList ++ Text.ofInt level

end Level

/-- The state of a journal. -/
structure Journal where
  /-- The id of the import that is running. -/
  importId : Option ImportId := none
  /-- The lowest level that is written. -/
  threshold : Int := 30
  /-- Whether records go to the console. -/
  console : Bool := false
  /-- Whether records go to a file. -/
  file : Bool := false
  deriving DecidableEq, Repr

namespace Journal

/-- A record in the file: its members by name. -/
abbrev Record := List (Text × Value)

def sinks (j : Journal) : Nat := j.console.toNat + j.file.toNat

/-- Whether a record of a level is written; level zero and below never is. -/
def writes (j : Journal) (level : Int) : Bool := 0 < level && j.threshold ≤ level

def outside : Text := "GLOBAL".toList

/-- Adds members one after the other; one of a name that is there takes its place. -/
def addMembers (members fields : List (Text × Value)) : List (Text × Value) :=
  fields.foldl (fun members (name, v) => Value.insertMember name v members) members

/-- A record; fields take the place of members of the same name. -/
def record (j : Journal) (level : Int) (logger : Text) (message : Text)
    (fields : List (Text × Value)) : Record :=
  let importId := match j.importId with
    | some i => i.toText
    | none => outside
  addMembers
    [("level".toList, .text (Level.name level)), ("message".toList, .text message),
     ("logger".toList, .text logger), ("import_id".toList, .text importId)] fields

def ownLogger : Text := "statement_import.common.logging_config".toList

/-- Sets up the journal at a level, with or without a file, and records that. A level that is not
known changes nothing. -/
def configure (j : Journal) (level : Value) (file : Bool) :
    Except Fault (Journal × List Record) := do
  let threshold ← Level.ofValue level
  let configured := { j with threshold, console := true, file }
  let debug : Int := 10
  let fields := [("level".toList, Value.text (Level.name threshold))]
  pure (configured, if configured.file && configured.writes debug then
    [configured.record debug ownLogger "Logging configured.".toList fields] else [])

/-! ## Fields -/

/-- The arguments of a record that are not fields. -/
def arguments : List Text := ["exc_info", "stack_info", "stacklevel", "extra"].map String.toList

def extraName : Text := "extra".toList

def fieldsName : Text := "extra_fields".toList

/-- Puts named fields into a value that holds fields already. -/
def addFields (held : Value) (fields : List (Text × Value)) : Except Fault Value :=
  match held, fields with
  | held, [] => .ok held
  | .object members, fields =>
    .ok (.object (addMembers members fields))
  | _, _ => .error .wrongKind

/-- The arguments of a record, its fields moved into the attribute that carries them. -/
def separate (given : List (Text × Value)) : Except Fault (List (Text × Value)) := do
  let fields := given.filter fun (name, _) => !arguments.contains name
  let kept := given.filter fun (name, _) => arguments.contains name && name != extraName
  match (Value.member? extraName given).getD (.object []) with
  | .object attributes =>
    let held := (Value.member? fieldsName attributes).getD (.object [])
    let held ← addFields held fields
    pure (kept ++ [(extraName, .object (Value.insertMember fieldsName held attributes))])
  | _ => .error .wrongKind

/-- The attributes that every record has and that cannot be given again. -/
def ownAttributes : List Text :=
  ["message", "asctime", "name", "msg", "args", "levelname", "levelno", "pathname", "filename",
   "module", "exc_info", "exc_text", "stack_info", "lineno", "funcName", "created", "msecs",
   "relativeCreated", "thread", "threadName", "processName", "process"].map String.toList

/-- The names of the parameters that an event always has. -/
def parameters : List Text := ["self", "level", "msg"].map String.toList

def carriedFields (separated : List (Text × Value)) : Except Fault (List (Text × Value)) :=
  match Value.member? extraName separated with
  | some (.object attributes) =>
    if attributes.any fun (name, _) => ownAttributes.contains name then .error .missingEntry
    else
      match Value.member? fieldsName attributes with
      | some (.object fields) => .ok fields
      | _ => .ok []
  | _ => .ok []

/-- The records that an event writes to the file. A message whose values do not fit is not written.
-/
def log (j : Journal) (level : Int) (logger : Text) (message : Value) (values : List Value)
    (given : List (Text × Value)) : Except Fault (List Record) := do
  if given.any fun (name, _) => parameters.contains name then .error .wrongKind
  if !j.writes level then return []
  let fields ← carriedFields (← separate given)
  match wording? message.plain values with
  | some text => pure (if j.file then [j.record level logger text fields] else [])
  | none => pure []

/-! ## Imports -/

/-- Binds the id of an import; without one, or with an empty one, a fresh id is drawn. -/
def bindId (j : Journal) (id : Option Text) : Journal :=
  { j with importId := some (ImportId.ofText (id.getD [])) }

def unbindId (j : Journal) : Journal := { j with importId := none }

/-- The journal while an import runs: an id that is bound stays, otherwise a fresh one is drawn. -/
def during (j : Journal) : Journal := if j.importId.isNone then j.bindId none else j

end Journal

end BankStatement
