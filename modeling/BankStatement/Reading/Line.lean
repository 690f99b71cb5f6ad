import BankStatement.Reading.Variable

/-!
# Values of a line

How the columns and rules of a section take values from a line. Values are assigned one after the
other; when one cannot be converted, those before it stay assigned. So each function here returns
the target in any case, together with its result or the fault that ended it.

A table without fields leaves every target alone (`walkFields_of_no_fields`): the values of such a
table come from its rules.

Where a line fails thus matters for what is left in the header. `Step` says this in its type: the
state comes back with a fault just as with a result.
-/

namespace BankStatement

/-- A step that changes its state also when it fails. -/
abbrev Step (σ α : Type) := σ × Except Fault α

namespace Section

/-! ## Fields -/

/-- Cuts a text after a number of characters, counted from the end if it is negative. -/
def cut (length : Int) (t : Text) : Text × Text :=
  let n := if 0 ≤ length then length.toNat else (Int.ofNat t.length + length).toNat
  (t.take n, t.drop n)

theorem cut_of_nonneg {length : Int} (h : 0 ≤ length) (t : Text) :
    cut length t = (t.take length.toNat, t.drop length.toNat) := by
  rw [cut, if_pos h]

/-- Assigns the value of a field, unless the field is skipped. -/
def assignField (template : Template) (f : Field) (value : Text) (target : Target) :
    Except Fault Target :=
  if f.target.isTruthy then do
    let (_, target) ← target.assignNamed template f.target value .always f.multiplier
    pure target
  else .ok target

/-- Takes the fields of a fixed-width table off what is left of a line. -/
def walkWidths (template : Template) : List Field → Text → Target → Step Target Unit
  | [], _, target => (target, .ok ())
  | f :: fields, left, target =>
    let length := if f.length = 0 then Int.ofNat left.length else f.length
    if Int.ofNat left.length < length then
      (target, .error (.fieldTooShort f.name length left.length))
    else
      let (value, rest) := cut length left
      match assignField template f value target with
      | .error fault => (target, .error fault)
      | .ok target => walkWidths template fields rest target

/-- Takes the fields of a separated table from the columns of a line; `count` is the number of all
its columns. -/
def walkColumns (template : Template) (count : Nat) :
    List Field → List Text → Target → Step Target Unit
  | [], _, target => (target, .ok ())
  | f :: _, [], target => (target, .error (.fieldMissing f.name count))
  | f :: fields, value :: values, target =>
    match assignField template f value target with
    | .error fault => (target, .error fault)
    | .ok target => walkColumns template count fields values target

/-- Takes the values of all fields from a line. -/
def walkFields (s : Section) (template : Template) (line : Text) (target : Target) :
    Step Target Unit :=
  if s.fields.isEmpty then (target, .ok ())
  else if s.isFixedWidth then walkWidths template s.fields line target
  else
    match s.fieldSeparator.asText with
    | .error fault => (target, .error fault)
    | .ok separator =>
      let values := Text.splitOn separator line
      walkColumns template values.length s.fields values target

theorem walkFields_of_no_fields {s : Section} (h : s.fields = []) (template : Template)
    (line : Text) (target : Target) : s.walkFields template line target = (target, .ok ()) := by
  simp [walkFields, h]

end Section

namespace Rule

/-! ## Rules -/

/-- Assigns the groups of a match that took some text. -/
def assignGroups (template : Template) (mode : Mode) (multiplier : Int) :
    List (Text × Option Text) → Target → Step Target Unit
  | [], target => (target, .ok ())
  | (name, value) :: groups, target =>
    match value with
    | none => assignGroups template mode multiplier groups target
    | some [] => assignGroups template mode multiplier groups target
    | some value =>
      match target.assign template name value mode multiplier with
      | .error fault => (target, .error fault)
      | .ok (_, target) => assignGroups template mode multiplier groups target

/-- Tries a rule on a line; the result tells whether its pattern was found. -/
def apply (r : Rule) (template : Template) (line : Text) (mode : Mode) (target : Target) :
    Step Target Bool :=
  match r.pattern.search? line with
  | none => (target, .ok false)
  | some found =>
    match assignGroups template mode r.multiplier (r.pattern.namedGroups found) target with
    | (target, .ok ()) => (target, .ok true)
    | (target, .error fault) => (target, .error fault)

/-- Tries rules in order; the result tells whether any of them was found. -/
def applyAll (template : Template) (line : Text) (mode : Mode) :
    List Rule → Target → Step Target Bool
  | [], target => (target, .ok false)
  | r :: rules, target =>
    match r.apply template line mode target with
    | (target, .error fault) => (target, .error fault)
    | (target, .ok found) =>
      match applyAll template line mode rules target with
      | (target, .error fault) => (target, .error fault)
      | (target, .ok others) => (target, .ok (found || others))

end Rule

end BankStatement
