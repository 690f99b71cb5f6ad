import BankStatement.Document.Yaml

/-!
# Settings

What an installation can choose: the folder of its templates, the library that reads PDF pages, the
encoding of text files that are not UTF-8, and how much is logged where. A settings file is a YAML
mapping, or has the settings under one name of it; what it omits keeps its default and what it adds
is ignored.
-/

namespace BankStatement

/-- The folder that templates are loaded from. -/
inductive TemplateFolder where
  /-- The templates that come with the library. -/
  | bundled
  /-- A path from the folder of the settings file, in its shortest form. -/
  | relative (steps : List Text)
  /-- A path from the root, as it was given. -/
  | absolute (path : Text)
  deriving DecidableEq, Repr

namespace TemplateFolder

def up : Text := "..".toList

/-- Goes one step further along a path in its shortest form; the path is in reverse. A step up takes
back the step before it, unless that is a step up itself. -/
def walk (path : List Text) (step : Text) : List Text :=
  if step.isEmpty ∨ step = ['.'] then path
  else if step = up then
    match path with
    | [] => [up]
    | last :: before => if last = up then up :: path else before
  else step :: path

def ofPath (path : Text) : TemplateFolder :=
  if path.head? = some '/' then .absolute path
  else .relative ((Text.splitOn ['/'] path).foldl walk []).reverse

end TemplateFolder

structure Settings where
  templates : TemplateFolder := .bundled
  pdfLibrary : Text := "pdfplumber".toList
  fallbackEncoding : Text := "cp1252".toList
  logLevel : Text := "INFO".toList
  logFile : Option Text := none
  deriving DecidableEq, Repr

namespace Settings

def pdfLibraries : List Text := ["pdfplumber".toList, "pypdf".toList]

/-- A text setting, which keeps its default if it is not given. -/
def textOr (fallback : Text) (name : String) (entries : List (Text × Yaml)) : Except Fault Text :=
  match entries.lookup name.toList with
  | none => .ok fallback
  | some (.scalar (.text t)) => .ok t
  | some _ => .error .invalidSetting

def ofEntries (entries : List (Text × Yaml)) : Except Fault Settings := do
  let defaults : Settings := {}
  let folder ← match entries.lookup "templates_dir".toList with
    | none => pure TemplateFolder.bundled
    | some (.scalar (.text path)) => pure (TemplateFolder.ofPath path)
    | some _ => .error .invalidSetting
  let library ← textOr defaults.pdfLibrary "pdf_backend" entries
  if !pdfLibraries.contains library then .error .invalidSetting
  let encoding ← textOr defaults.fallbackEncoding "fallback_encoding" entries
  let level ← textOr defaults.logLevel "log_level" entries
  let file ← match entries.lookup "log_file".toList with
    | none => pure none
    | some (.scalar .null) => pure none
    | some (.scalar (.text t)) => pure (some t)
    | some _ => .error .invalidSetting
  pure ⟨folder, library, encoding, level, file⟩

def namedEntries (entries : List (Yaml × Yaml)) : Except Fault (List (Text × Yaml)) :=
  entries.mapM fun (name, v) => match name with
    | .scalar (.text t) => .ok (t, v)
    | _ => .error .wrongKind

/-- The name under which a file may keep its settings. -/
def groupName : Text := "statement_import".toList

/-- The node of the settings in a mapping: what stands under their name, or else the mapping. -/
def groupOf (entries : List (Yaml × Yaml)) : Yaml :=
  match entries.find? fun (name, _) => match name with
    | .scalar (.text t) => t = groupName
    | _ => false with
  | some (_, v) => v
  | none => .mapping entries

/-- Whether a node counts as an empty document. -/
def isAbsent : Yaml → Bool
  | .scalar v => !v.isTruthy
  | .moment _ => false
  | .list items => items.isEmpty
  | .mapping entries => entries.isEmpty

/-- The settings in a document. -/
def ofYaml (node : Yaml) : Except Fault Settings :=
  if isAbsent node then .ok {}
  else
    match node with
    | .mapping entries =>
      match groupOf entries with
      | .mapping own => do ofEntries (← namedEntries own)
      | _ => .error .wrongKind
    | _ => .error .notSupported

/-- The settings of a file; without a file all have their defaults. -/
def load (file : Option Text) : Except Fault Settings :=
  match file with
  | none => .ok {}
  | some t => do ofYaml (← Yaml.ofText t)

def ofMembers (members : List (Text × Value)) : Except Fault Settings :=
  ofEntries (members.map fun (name, v) => (name, .scalar v))

end Settings

end BankStatement
