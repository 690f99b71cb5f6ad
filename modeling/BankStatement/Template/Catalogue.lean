import BankStatement.Source.Utf8
import BankStatement.Template.Bundled.Barclays
import BankStatement.Template.Bundled.Ing
import BankStatement.Template.Bundled.Wuestenrot
import BankStatement.Template.Document

/-!
# Catalogues of templates

A catalogue holds templates by source kind, in the order in which they are tried. It is filled from
the files of a folder, in the order of their names; a file holds the templates of one source kind
and joins as a whole or not at all.

A strict catalogue reports the first fault. A lenient one skips a file that cannot be opened or
read, that lacks its source, or that holds a template with a fault of its own; a file whose values
are of the wrong kind altogether is reported all the same.
-/

namespace BankStatement

/-- Faults for which a lenient catalogue skips a file. -/
def Fault.isSkippable : Fault → Bool
  | .unknownWord .. | .noSections _ | .invalidPattern => true
  | .isFolder | .unreadableSource | .malformedBytes | .malformedJson | .notANumber => true
  | .missingEntry => true
  | _ => false

/-- What stands under a name in a folder. -/
inductive FolderItem where
  | file (bytes : Bytes)
  | folder
  deriving DecidableEq, Repr

/-- Templates by source kind, the sources in the order in which they first appeared. -/
structure Catalogue where
  entries : List (Value × List Template) := []
  deriving Repr, BEq

namespace Catalogue

/-- Adds templates behind those of their source. -/
def addTo (source : Value) (templates : List Template) :
    List (Value × List Template) → List (Value × List Template)
  | [] => [(source, templates)]
  | (key, old) :: rest =>
    if key.sameKey source then (key, old ++ templates) :: rest
    else (key, old) :: addTo source templates rest

def add (c : Catalogue) (source : Value) (templates : List Template) : Catalogue :=
  ⟨addTo source templates c.entries⟩

/-- The source and the templates of a template document. Lists and objects cannot be sources. -/
def readDocument (v : Value) : Except Fault (Value × List Template) := do
  let source ← v.entry "source"
  let members ← v.asObject
  let templates ← (← (Value.memberOr "templates" members (.list [])).elements).mapM
    (Template.ofValue source)
  match source with
  | .list _ => .error .wrongKind
  | .object _ => .error .wrongKind
  | _ => pure (source, templates)

def readItem : FolderItem → Except Fault (Value × List Template)
  | .folder => .error .isFolder
  | .file bytes =>
    match Utf8.decode? bytes with
    | none => .error .malformedBytes
    | some t =>
      match Value.ofJson? t with
      | none => .error .malformedJson
      | some v => readDocument v

/-- Adds the files of a folder in the given order. -/
def addItems (strict : Bool) : List FolderItem → Catalogue → Except Fault Catalogue
  | [], c => .ok c
  | item :: items, c =>
    match readItem item with
    | .ok (source, templates) => addItems strict items (c.add source templates)
    | .error fault =>
      if !strict && fault.isSkippable then addItems strict items c else .error fault

/-- The template files of a folder, in the order of their names. -/
def templateFiles (items : List (Text × FolderItem)) : List FolderItem :=
  let named := items.filter fun (name, _) => ".json".toList.isSuffixOf name
  (named.mergeSort fun a b => Text.le a.1 b.1).map (·.2)

/-- The catalogue of a folder. -/
def ofFolder (strict : Bool) (items : List (Text × FolderItem)) : Except Fault Catalogue :=
  addItems strict (templateFiles items) {}

/-- The catalogue of some template documents, loaded strictly in the given order. -/
def ofDocuments : List Value → Catalogue → Except Fault Catalogue
  | [], c => .ok c
  | v :: vs, c => do
    let (source, templates) ← readDocument v
    ofDocuments vs (c.add source templates)

/-- The templates of a source kind. -/
def templatesFor (c : Catalogue) (source : Value) : List Template :=
  ((c.entries.find? fun (key, _) => key.sameKey source).map (·.2)).getD []

def templates (c : Catalogue) : List Template := c.entries.flatMap (·.2)

def find? (c : Catalogue) (name : Value) : Option Template :=
  c.templates.find? fun t => t.name.equals name

def sources (c : Catalogue) : List Value := c.entries.map (·.1)

def bundled : Catalogue where
  entries := [
    (.ofString "barclays_pdf", [Bundled.barclaysOverview, Bundled.barclaysPlain]),
    (.ofString "ing_csv", [Bundled.ingCsvWithCategory, Bundled.ingCsvPlain]),
    (.ofString "ing_pdf", [Bundled.ingPdf]),
    (.ofString "wuestenrot_pdf", [Bundled.wuestenrot])]

end Catalogue

end BankStatement
