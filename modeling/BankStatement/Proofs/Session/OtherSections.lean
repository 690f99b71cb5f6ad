import BankStatement.Session.Record

/-!
# What a line says does not depend on the other sections

A template gives its notation (date layouts, separators, corrections) to every line that is read
with it; its list of sections is only used to find the section that reads. So the values that a
section takes from a line are the same in every template of the same notation, which is what lets
two readings be compared whose templates differ in some sections (`readRecord_withSections`,
`readKeyValue_withSections`).

The lemmas go up from one assignment to a whole line, one for each function on the way, and are made
for rewriting: the template on the left is one with sections exchanged. Nothing is assumed about the
sections, not even that the reading section is among them.
-/

namespace BankStatement

/-- The template with other sections and the same notation. -/
def Template.withSections (template : Template) (sections : List Section) : Template :=
  { template with sections }

variable {template : Template} {secs : List Section}

namespace Target

theorem assign_withSections (name value : Text) (mode : Mode) (multiplier : Int) (target : Target) :
    target.assign (template.withSections secs) name value mode multiplier
      = target.assign template name value mode multiplier := by
  have hheader : ∀ h v, Header.assign (template.withSections secs) h v name value mode
      = Header.assign template h v name value mode := fun _ v => by cases v <;> rfl
  have hmovement : ∀ m v,
      Movement.assign (template.withSections secs) m v name value mode multiplier
        = Movement.assign template m v name value mode multiplier := fun _ v => by cases v <;> rfl
  simp only [assign, hheader, hmovement]

theorem assignNamed_withSections (name : Value) (value : Text) (mode : Mode) (multiplier : Int)
    (target : Target) :
    target.assignNamed (template.withSections secs) name value mode multiplier
      = target.assignNamed template name value mode multiplier := by
  simp only [assignNamed, assign_withSections]

end Target

namespace Section

theorem walkFields_withSections (s : Section) (line : Text) (target : Target) :
    s.walkFields (template.withSections secs) line target = s.walkFields template line target := by
  have hwidths : ∀ fields left target, walkWidths (template.withSections secs) fields left target
      = walkWidths template fields left target := by
    intro fields
    induction fields with
    | nil => exact fun _ _ => rfl
    | cons f fields ih =>
        intro left target
        simp only [walkWidths, assignField, Target.assignNamed_withSections, ih]
  have hcolumns : ∀ fields count values target,
      walkColumns (template.withSections secs) count fields values target
        = walkColumns template count fields values target := by
    intro fields
    induction fields with
    | nil => exact fun _ _ _ => by simp only [walkColumns]
    | cons f fields ih =>
        intro count values target
        cases values <;>
          simp only [walkColumns, assignField, Target.assignNamed_withSections, ih]
  simp only [walkFields, hwidths, hcolumns]

end Section

namespace Rule

theorem apply_withSections (r : Rule) (line : Text) (mode : Mode) (target : Target) :
    r.apply (template.withSections secs) line mode target = r.apply template line mode target := by
  have hgroups : ∀ groups target,
      assignGroups (template.withSections secs) mode r.multiplier groups target
        = assignGroups template mode r.multiplier groups target := by
    intro groups
    induction groups with
    | nil => exact fun _ => rfl
    | cons group groups ih =>
        obtain ⟨name, value⟩ := group
        intro target
        simp only [assignGroups, Target.assign_withSections, ih]
  simp only [apply, hgroups]

theorem applyAll_withSections (line : Text) (mode : Mode) (rules : List Rule) (target : Target) :
    applyAll (template.withSections secs) line mode rules target
      = applyAll template line mode rules target := by
  induction rules generalizing target with
  | nil => rfl
  | cons r rules ih => simp only [applyAll, apply_withSections, ih]

end Rule

namespace Section

theorem readRecord_withSections (s : Section) (today : Date) (withAdditional : Bool) (line : Text)
    (header : Header) :
    s.readRecord (template.withSections secs) today withAdditional line header
      = s.readRecord template today withAdditional line header := by
  simp only [readRecord, takeValues, walkFields_withSections, Rule.applyAll_withSections]

theorem readKeyValue_withSections (s : Section) (line : Text) (header : Header) :
    s.readKeyValue (template.withSections secs) line header
      = s.readKeyValue template line header := by
  have hkeys : ∀ keys separator parts header,
      readKeys (template.withSections secs) separator parts keys header
        = readKeys template separator parts keys header := by
    intro keys
    induction keys with
    | nil => exact fun _ _ _ => rfl
    | cons key keys ih =>
        intro separator parts header
        simp only [readKeys, Target.assignNamed_withSections, ih]
  simp only [readKeyValue, hkeys]

end Section

end BankStatement
