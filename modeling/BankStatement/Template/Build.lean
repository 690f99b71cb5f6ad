import BankStatement.Pattern.Reader
import BankStatement.Template.Basic

/-!
# Building templates

Short forms in which the bundled templates are written down. What they leave out takes the default
that a template document without it would give it. Patterns are given as literals and read when the
template is built.
-/

namespace BankStatement

def Column.named (name target : String) : Column :=
  .field { name := .ofString name, target := .ofString target, length := 0, multiplier := 1 }

/-- A positional column of a fixed width. -/
def Column.wide (name target : String) (length : Int) : Column :=
  .field { name := .ofString name, target := .ofString target, length, multiplier := 1 }

/-- A primary rule whose amounts are multiplied. -/
def Column.primary (pattern : String) (multiplier : Int) : Column :=
  .rule {
    pattern := Pattern.ofLiteral pattern
    multiplier
    role := .primary
    maxOccurrence := none }

def Column.additional (pattern : String) (maxOccurrence : Option Int) : Column :=
  .rule {
    pattern := Pattern.ofLiteral pattern
    multiplier := 1
    role := .additional
    maxOccurrence }

def Key.always (name target : String) : Key :=
  { name := .ofString name, target := .ofString target, mode := .always }

def Key.first (name target : String) : Key :=
  { name := .ofString name, target := .ofString target, mode := .onlyWhenEmpty }

/-- A section that is passed over up to a line with one of some keywords. -/
def Section.skip (name : String) (endKeywords : List String) : Section :=
  { name := .ofString name, kind := .ignore, endKeywords := endKeywords.map (·.toList) }

end BankStatement
