import BankStatement.Proofs.Pattern.Flaws
import BankStatement.Proofs.Reading.Assigning
import BankStatement.Template.Build

/-!
# Where the values of a line stand

A table takes the values of its fields by their position in the line: as many characters as a field
is wide, or the next column. A `Cutting` says where each value stands without going through the
line, and both kinds of tables make the same walk over their fields of it (`walkWidths_eq_walk`,
`walkColumns_eq_walk`).

What such a walk comes to is said by `Walks`: it assigns the values in order and ends at the first
field that has no value or one that cannot be converted. Converting never fails by a missing field
(`present_assignField`), so that fault tells that the line is too short and that no value in front
of the gap is to blame.

The program takes the fields of fixed width off what is left of the line, so the place of a value is
never written down; the proof carries how many characters have been taken (`totalLength`). Only the
last field may be without a width and take the rest, which `Measured` says; with such a field in the
middle, the fields behind it would get nothing, and a position would not be a sum of widths any
more.

The first part of the module shows of every conversion that it does not fail by a missing field. It
goes through them one by one, because this is a property of each of their faults and not of the way
in which they are put together.
-/

namespace BankStatement

/-- The line has no value for a field. -/
def Fault.isMissingField : Fault → Bool
  | .fieldTooShort .. | .fieldMissing .. => true
  | _ => false

/-! ## Values that cannot be converted -/

/-- A step that fails, if it does, by something else than a missing field. -/
abbrev Present {α : Type} (r : Except Fault α) : Prop :=
  FailsBy (fun fault => fault.isMissingField = false) r

theorem Value.present_asText (v : Value) : Present v.asText := by
  unfold asText
  split
  · exact failsBy_ok _
  · exact failsBy_error rfl

namespace Template

variable (template : Template)

theorem present_tryDateFormat (format : Value) (t : Text) : Present (tryDateFormat format t) := by
  refine format.present_asText.bind fun source _ => ?_
  split
  · exact failsBy_ok _
  · split
    · exact failsBy_ok _
    · exact failsBy_error rfl

theorem present_firstDate (t : Text) (formats : List Value) : Present (firstDate t formats) := by
  induction formats with
  | nil => exact failsBy_ok _
  | cons format formats ih =>
      refine (present_tryDateFormat format t).bind fun d? _ => ?_
      cases d? with
      | none => exact ih
      | some d => exact failsBy_ok _

theorem present_readDate (target : Text) (value : Option Text) :
    Present (template.readDate target value) := by
  refine (present_firstDate _ _).bind fun d? _ => ?_
  cases d? with
  | none => exact failsBy_error rfl
  | some d => exact failsBy_ok _

theorem present_plainDigits (digits : Text) : Present (template.plainDigits digits) := by
  have hmark (ungrouped : Text) : Present (do
      pure (Text.replace (← template.decimalSeparator.asText) ['.'] ungrouped)) :=
    (Value.present_asText _).bind fun mark _ => failsBy_ok _
  unfold plainDigits
  split
  · exact (Value.present_asText _).bind fun groups _ => hmark _
  · exact hmark digits

theorem present_readAmount (target : Text) (value : Option Text) :
    Present (template.readAmount target value) := by
  refine (template.present_plainDigits _).bind fun plain _ => ?_
  simp only
  split
  · exact failsBy_error rfl
  · split
    · exact failsBy_ok _
    · exact failsBy_error rfl

theorem present_correct (t : Text) : Present (template.correct t) := by
  unfold correct
  induction template.replacements generalizing t with
  | nil => exact failsBy_ok _
  | cons r rs ih =>
      rw [List.foldlM_cons]
      refine FailsBy.bind ?_ fun u _ => ih u
      unfold Replacement.apply
      split
      · exact (Value.present_asText _).bind fun search _ =>
          (Value.present_asText _).bind fun replacement _ => failsBy_ok _
      · exact failsBy_ok _

end Template

variable (template : Template)

theorem Header.present_assign (h : Header) (v : HeaderVariable) (name value : Text) (mode : Mode) :
    Present (h.assign template v name value mode) := by
  cases v with
  | periodStart | periodEnd =>
      exact (template.present_readDate _ _).bind fun d _ => failsBy_ok _
  | _ => exact failsBy_ok _

theorem Movement.present_assign (m : Movement) (v : MovementVariable) (name value : Text)
    (mode : Mode) (multiplier : Int) :
    Present (m.assign template v name value mode multiplier) := by
  cases v with
  | bookingDate | valutaDate => exact (template.present_readDate _ _).bind fun d _ => failsBy_ok _
  | counterparty | postingDescription | subject =>
      exact (template.present_correct _).bind fun t _ => failsBy_ok _
  | currencyCode => exact failsBy_ok _
  | amount | quantity => exact (template.present_readAmount _ _).bind fun a _ => failsBy_ok _

theorem Target.present_assign (name value : Text) (mode : Mode) (multiplier : Int)
    (target : Target) : Present (target.assign template name value mode multiplier) := by
  unfold Target.assign
  split
  · exact FailsBy.bind (Header.present_assign template _ _ _ _ _) fun header _ => failsBy_ok _
  · split
    · exact FailsBy.bind (Movement.present_assign template _ _ _ _ _ _) fun m _ => failsBy_ok _
    · exact failsBy_ok _

namespace Section

theorem present_assignField (f : Field) (value : Text) (target : Target) :
    Present (assignField template f value target) := by
  unfold assignField
  split
  · refine FailsBy.bind ?_ fun made _ => failsBy_ok _
    unfold Target.assignNamed
    split
    · exact Target.present_assign template _ _ _ _ _
    · exact failsBy_error rfl
    · exact failsBy_error rfl
    · exact failsBy_ok _
  · exact failsBy_ok _

def assignEach (pairs : List (Field × Text)) (target : Target) : Except Fault Target :=
  pairs.foldlM (fun target pair => assignField template pair.1 pair.2 target) target

theorem assignEach_cons (f : Field) (value : Text) (pairs : List (Field × Text))
    (target : Target) :
    assignEach template ((f, value) :: pairs) target
      = assignField template f value target >>= assignEach template pairs :=
  List.foldlM_cons

end Section

/-! ## Cuttings -/

/-- How a line is cut into the values of fields. -/
structure Cutting where
  /-- The value for the field at an index. -/
  value? : Nat → Option Text
  /-- What the field at an index is told when there is none. -/
  missing : Nat → Field → Fault
  /-- The line does not reach as far as the fields. -/
  isShort : Prop

namespace Cutting

/-- Values that stand in a line one behind the other, from an index on. -/
def GivesFrom (c : Cutting) (start : Nat) (values : List Text) : Prop :=
  ∀ i, i < values.length → c.value? (start + i) = values[i]?

instance (c : Cutting) (start : Nat) (values : List Text) : Decidable (c.GivesFrom start values) :=
  inferInstanceAs (Decidable (∀ i, i < values.length → c.value? (start + i) = values[i]?))

abbrev Gives (c : Cutting) (values : List Text) : Prop := c.GivesFrom 0 values

theorem givesFrom_nil (c : Cutting) (start : Nat) : c.GivesFrom start [] := by
  intro i hi
  cases hi

theorem givesFrom_cons {c : Cutting} {start : Nat} {value : Text} {values : List Text} :
    c.GivesFrom start (value :: values)
      ↔ c.value? start = some value ∧ c.GivesFrom (start + 1) values := by
  constructor
  · intro h
    refine ⟨h 0 (Nat.succ_pos _), fun i hi => ?_⟩
    have hnext := h (i + 1) (Nat.succ_lt_succ hi)
    rwa [List.getElem?_cons_succ, ← Nat.add_assoc, Nat.add_right_comm] at hnext
  · rintro ⟨hvalue, hvalues⟩ i hi
    cases i with
    | zero => exact hvalue
    | succ i =>
        rw [List.getElem?_cons_succ, ← hvalues i (Nat.lt_of_succ_lt_succ hi), Nat.add_right_comm,
          Nat.add_assoc]

/-- Walks over fields, the first of which has an index, and assigns their values. -/
def walk (c : Cutting) : List Field → Nat → Target → Step Target Unit
  | [], _, target => (target, .ok ())
  | f :: fields, i, target =>
    match c.value? i with
    | none => (target, .error (c.missing i f))
    | some value =>
      match Section.assignField template f value target with
      | .error fault => (target, .error fault)
      | .ok target => walk c fields (i + 1) target

variable {template} {c : Cutting} {fields : List Field} {start : Nat} {target target' : Target}

theorem walk_ok_iff :
    c.walk template fields start target = (target', .ok ())
      ↔ ∃ values, values.length = fields.length ∧ c.GivesFrom start values
        ∧ Section.assignEach template (fields.zip values) target = .ok target' := by
  induction fields generalizing start target with
  | nil =>
      constructor
      · rintro ⟨⟩
        exact ⟨[], rfl, c.givesFrom_nil start, rfl⟩
      · rintro ⟨values, -, -, hall⟩
        cases hall
        rfl
  | cons f fields ih =>
      unfold walk
      constructor
      · intro h
        split at h
        · cases h
        next value hvalue =>
          split at h
          · cases h
          next target₁ hassign =>
            obtain ⟨values, hlen, hgives, hall⟩ := ih.mp h
            refine ⟨value :: values, by simpa using hlen, givesFrom_cons.mpr ⟨hvalue, hgives⟩, ?_⟩
            rw [List.zip_cons_cons, Section.assignEach_cons, hassign]
            exact hall
      · rintro ⟨values, hlen, hgives, hall⟩
        obtain _ | ⟨value, values⟩ := values
        · cases hlen
        obtain ⟨hvalue, hgives⟩ := givesFrom_cons.mp hgives
        rw [List.zip_cons_cons, Section.assignEach_cons] at hall
        simp only [hvalue]
        cases hassign : Section.assignField template f value target with
        | error fault => rw [hassign] at hall; cases hall
        | ok target₁ =>
            rw [hassign] at hall
            exact ih.mpr ⟨values, by simpa using hlen, hgives, hall⟩

theorem walk_error_iff {fault : Fault} :
    c.walk template fields start target = (target', .error fault)
      ↔ ∃ values f, fields[values.length]? = some f ∧ c.GivesFrom start values
        ∧ Section.assignEach template (fields.zip values) target = .ok target'
        ∧ (c.value? (start + values.length) = none ∧ fault = c.missing (start + values.length) f
          ∨ ∃ value, c.value? (start + values.length) = some value
            ∧ Section.assignField template f value target' = .error fault) := by
  induction fields generalizing start target with
  | nil =>
      constructor
      · rintro ⟨⟩
      · rintro ⟨values, f, hf, -⟩
        cases hf
  | cons f fields ih =>
      unfold walk
      constructor
      · intro h
        split at h
        next hvalue =>
          cases h
          exact ⟨[], f, rfl, c.givesFrom_nil start, rfl, .inl ⟨hvalue, rfl⟩⟩
        next value hvalue =>
          split at h
          next hassign =>
            cases h
            exact ⟨[], f, rfl, c.givesFrom_nil start, rfl, .inr ⟨value, hvalue, hassign⟩⟩
          next target₁ hassign =>
            obtain ⟨values, g, hg, hgives, hall, hend⟩ := ih.mp h
            refine ⟨value :: values, g, hg, givesFrom_cons.mpr ⟨hvalue, hgives⟩, ?_, ?_⟩
            · rw [List.zip_cons_cons, Section.assignEach_cons, hassign]
              exact hall
            · rwa [List.length_cons, ← Nat.add_assoc, Nat.add_right_comm]
      · rintro ⟨values, g, hg, hgives, hall, hend⟩
        obtain _ | ⟨value, values⟩ := values
        · cases hg
          cases hall
          rcases hend with ⟨hnone, rfl⟩ | ⟨value, hvalue, hassign⟩
          · rw [Nat.add_comm, List.length_nil, Nat.zero_add] at hnone
            simp only [hnone]
            rfl
          · rw [Nat.add_comm, List.length_nil, Nat.zero_add] at hvalue
            simp only [hvalue, hassign]
        obtain ⟨hvalue, hgives⟩ := givesFrom_cons.mp hgives
        rw [List.zip_cons_cons, Section.assignEach_cons] at hall
        rw [List.length_cons, ← Nat.add_assoc, Nat.add_right_comm] at hend
        simp only [hvalue]
        cases hassign : Section.assignField template f value target with
        | error fault => rw [hassign] at hall; cases hall
        | ok target₁ =>
            rw [hassign] at hall
            exact ih.mpr ⟨values, g, hg, hgives, hall, hend⟩

/-- A line is short when one of its fields has no value, and that is what such a field is told. -/
structure Fits (c : Cutting) (fields : List Field) : Prop where
  isShort_iff : c.isShort ↔ ∃ i, i < fields.length ∧ c.value? i = none
  isMissingField : ∀ i f, (c.missing i f).isMissingField = true

/-- A walk ends at a missing field when the line is short and all fields in front of the gap could
be assigned. -/
theorem walk_missing_iff (hc : c.Fits fields) :
    (∃ target' fault, c.walk template fields 0 target = (target', .error fault)
        ∧ fault.isMissingField = true)
      ↔ c.isShort ∧ ∃ values target', c.Gives values ∧ c.value? values.length = none
        ∧ Section.assignEach template (fields.zip values) target = .ok target' := by
  constructor
  · rintro ⟨target', fault, hwalk, hmissing⟩
    obtain ⟨values, f, hf, hgives, hall, hend⟩ := walk_error_iff.mp hwalk
    rw [Nat.zero_add] at hend
    rcases hend with ⟨hnone, -⟩ | ⟨value, -, hassign⟩
    · obtain ⟨hlt, -⟩ := List.getElem?_eq_some_iff.mp hf
      exact ⟨hc.isShort_iff.mpr ⟨values.length, hlt, hnone⟩, values, target', hgives, hnone, hall⟩
    · rw [Section.present_assignField template f value target' fault hassign] at hmissing
      cases hmissing
  · rintro ⟨hshort, values, target', hgives, hnone, hall⟩
    obtain ⟨i, hi, hi'⟩ := hc.isShort_iff.mp hshort
    have hlt : values.length < fields.length := by
      by_contra hge
      have hvalue := hgives i (by omega)
      rw [Nat.zero_add, hi', List.getElem?_eq_getElem (by omega)] at hvalue
      cases hvalue
    refine ⟨target', c.missing values.length fields[values.length], walk_error_iff.mpr ?_,
      hc.isMissingField _ _⟩
    refine ⟨values, _, List.getElem?_eq_getElem hlt, hgives, hall, .inl ?_⟩
    rw [Nat.zero_add]
    exact ⟨hnone, rfl⟩

end Cutting

/-- What a walk over fields comes to when a cutting gives their values. -/
structure Walks (template : Template) (fields : List Field) (c : Cutting)
    (walk : Target → Step Target Unit) : Prop where
  /-- It gets through when every field has a value and all can be assigned in order. -/
  ok_iff : ∀ target target', walk target = (target', .ok ())
    ↔ ∃ values, values.length = fields.length ∧ c.Gives values
      ∧ Section.assignEach template (fields.zip values) target = .ok target'
  /-- It fails at a field that has no value or one that cannot be assigned, and leaves what the
  fields in front of that one have been assigned. -/
  error_iff : ∀ target target' fault, walk target = (target', .error fault)
    ↔ ∃ values f, fields[values.length]? = some f ∧ c.Gives values
      ∧ Section.assignEach template (fields.zip values) target = .ok target'
      ∧ (c.value? values.length = none ∧ fault = c.missing values.length f
        ∨ ∃ value, c.value? values.length = some value
          ∧ Section.assignField template f value target' = .error fault)
  /-- A field is missing when the line is short, provided that those in front of it convert. -/
  missing_iff : ∀ target,
    (∃ target' fault, walk target = (target', .error fault) ∧ fault.isMissingField = true)
      ↔ c.isShort ∧ ∃ values target', c.Gives values ∧ c.value? values.length = none
        ∧ Section.assignEach template (fields.zip values) target = .ok target'

theorem Cutting.Fits.walks {c : Cutting} {fields : List Field} (hc : c.Fits fields) :
    Walks template fields c (c.walk template fields 0) where
  ok_iff _ _ := walk_ok_iff
  error_iff target target' fault := by
    have hend : c.walk template fields 0 target = (target', .error fault) ↔ _ := walk_error_iff
    simpa only [Nat.zero_add] using hend
  missing_iff _ := walk_missing_iff hc

/-! ## Fields of a width -/

namespace Section

def totalLength : List Field → Nat
  | [] => 0
  | f :: fields => f.length.toNat + totalLength fields

/-- Every field has a length; only the last one may do without and take the rest of the line. -/
structure Measured (fields : List Field) : Prop where
  positive : ∀ f ∈ fields.dropLast, 0 < f.length
  last : ∀ f ∈ fields.getLast?, 0 ≤ f.length

def widthCutting (fields : List Field) (line : Text) : Cutting where
  value? i := fields[i]?.bind fun f =>
    let before := totalLength (fields.take i)
    if line.length < before + f.length.toNat then none
    else if f.length = 0 then some (line.drop before)
    else some ((line.drop before).take f.length.toNat)
  missing i f := .fieldTooShort f.name f.length (line.length - totalLength (fields.take i))
  isShort := line.length < totalLength fields

def columnCutting (separator : Text) (fields : List Field) (line : Text) : Cutting where
  value? i := (Text.splitOn separator line)[i]?
  missing _ f := .fieldMissing f.name (Text.splitOn separator line).length
  isShort := (Text.splitOn separator line).length < fields.length

variable {template} {fields before rest : List Field} {f : Field} {line : Text}

theorem totalLength_append (fields others : List Field) :
    totalLength (fields ++ others) = totalLength fields + totalLength others := by
  induction fields with
  | nil => exact (Nat.zero_add _).symm
  | cons f fields ih => rw [List.cons_append, totalLength, totalLength, ih, Nat.add_assoc]

theorem totalLength_concat (fields : List Field) (f : Field) :
    totalLength (fields ++ [f]) = totalLength fields + f.length.toNat := by
  rw [totalLength_append, totalLength, totalLength, Nat.add_zero]

theorem Measured.of_rest (h : Measured (before ++ f :: rest)) :
    0 < f.length ∨ f.length = 0 ∧ rest = [] := by
  cases rest with
  | nil =>
      have hlast : 0 ≤ f.length := h.last f (by simp)
      rcases Int.lt_or_eq_of_le hlast with hpos | hzero
      · exact .inl hpos
      · exact .inr ⟨hzero.symm, rfl⟩
  | cons g rest =>
      exact .inl (h.positive f (by simp [List.dropLast_append_of_ne_nil]))

/-- The value of a field behind others. -/
theorem widthCutting_value? (before rest : List Field) (f : Field) (line : Text) :
    (widthCutting (before ++ f :: rest) line).value? before.length
      = if line.length < totalLength before + f.length.toNat then none
        else if f.length = 0 then some (line.drop (totalLength before))
        else some ((line.drop (totalLength before)).take f.length.toNat) := by
  simp [widthCutting]

theorem walkWidths_eq_walk (before : List Field) (hmeasured : Measured (before ++ rest))
    (hbefore : totalLength before ≤ line.length) (target : Target) :
    walkWidths template rest (line.drop (totalLength before)) target
      = (widthCutting (before ++ rest) line).walk template rest before.length target := by
  induction rest generalizing before target with
  | nil => rfl
  | cons f rest ih =>
      rw [Cutting.walk, widthCutting_value?]
      unfold walkWidths
      rcases hmeasured.of_rest with hpos | ⟨hzero, rfl⟩
      · have hwide : f.length ≠ 0 := by omega
        have hshort : Int.ofNat (line.drop (totalLength before)).length < f.length
            ↔ line.length < totalLength before + f.length.toNat := by
          rw [List.length_drop, Int.ofNat_eq_natCast]
          omega
        have hcut : cut f.length (line.drop (totalLength before))
            = ((line.drop (totalLength before)).take f.length.toNat,
              line.drop (totalLength (before ++ [f]))) := by
          rw [cut_of_nonneg (by omega), List.drop_drop, totalLength_concat]
        simp only [hwide, if_false, hshort, hcut]
        split
        · rw [List.length_drop]
          simp [widthCutting]
        next hlong =>
          simp only
          cases assignField template f ((line.drop (totalLength before)).take f.length.toNat)
              target with
          | error fault => rfl
          | ok target' =>
              have hnext := @ih (before ++ [f]) (by simpa using hmeasured)
                (by rw [totalLength_concat]; omega) target'
              simpa using hnext
      · have hlong : ¬ line.length < totalLength before + f.length.toNat := by
          rw [hzero]
          simpa using hbefore
        simp only [hzero, if_true, Int.lt_irrefl, if_false, cut_length]
        rw [if_neg (by simpa using hbefore)]
        simp only
        cases assignField template f (line.drop (totalLength before)) target <;> rfl

theorem walkColumns_eq_walk (separator : Text) (all : List Field) (start : Nat)
    (target : Target) :
    walkColumns template (Text.splitOn separator line).length fields
        ((Text.splitOn separator line).drop start) target
      = (columnCutting separator all line).walk template fields start target := by
  induction fields generalizing start target with
  | nil => rw [walkColumns.eq_def]; rfl
  | cons f fields ih =>
      have hvalue : (columnCutting separator all line).value? start
          = ((Text.splitOn separator line).drop start).head? := by
        rw [List.head?_drop]
        rfl
      have hnext := ih (start + 1)
      rw [← List.tail_drop] at hnext
      rw [Cutting.walk, hvalue]
      cases hdrop : (Text.splitOn separator line).drop start with
      | nil => rfl
      | cons value values =>
          rw [hdrop] at hnext
          rw [walkColumns, List.head?_cons]
          simp only
          cases assignField template f value target with
          | error fault => rfl
          | ok target' => exact hnext target'

/-- Nothing stands behind the last field. -/
theorem eq_nil_of_givesFrom_end {values : List Text}
    (h : (widthCutting (before ++ [f]) line).GivesFrom (before.length + 1) values) :
    values = [] := by
  rw [List.eq_nil_iff_length_eq_zero]
  by_contra hlen
  have hfirst := h 0 (by omega)
  simp [widthCutting, List.getElem?_eq_getElem (Nat.pos_of_ne_zero hlen)] at hfirst

/-- What stands behind one another in the line makes up its beginning. -/
theorem flatten_prefix_of_gives (before : List Field) (hmeasured : Measured (before ++ rest))
    (hbefore : totalLength before ≤ line.length) {values : List Text}
    (h : (widthCutting (before ++ rest) line).GivesFrom before.length values) :
    values.flatten <+: line.drop (totalLength before) := by
  induction values generalizing before rest with
  | nil => exact List.nil_prefix
  | cons value values ih =>
      obtain ⟨hvalue, hvalues⟩ := Cutting.givesFrom_cons.mp h
      cases rest with
      | nil => simp [widthCutting] at hvalue
      | cons f rest =>
          rw [widthCutting_value?] at hvalue
          split at hvalue
          · cases hvalue
          next hlong =>
            have hrest := @ih rest (before ++ [f]) (by simpa using hmeasured)
              (by rw [totalLength_concat]; omega) (by simpa using hvalues)
            rw [List.flatten_cons]
            split at hvalue
            next hzero =>
              -- a field without a length is the last one, and has taken everything
              obtain rfl : rest = [] := by
                rcases hmeasured.of_rest with hpos | ⟨-, hlast⟩
                · omega
                · exact hlast
              have hnone := eq_nil_of_givesFrom_end hvalues
              cases hvalue
              simp only [hnone, List.flatten_nil, List.append_nil, List.prefix_rfl]
            next =>
              cases hvalue
              rw [totalLength_concat, ← List.drop_drop] at hrest
              have hall := (List.prefix_append_right_inj
                ((line.drop (totalLength before)).take f.length.toNat)).mpr hrest
              rwa [List.take_append_drop] at hall

theorem length_lt_totalLength_iff {fields : List Field} :
    line.length < totalLength fields
      ↔ ∃ i, i < fields.length ∧ (widthCutting fields line).value? i = none := by
  constructor
  · intro hshort
    obtain ⟨before, f, rfl⟩ : ∃ before f, fields = before ++ [f] := by
      rcases List.eq_nil_or_concat fields with rfl | ⟨before, f, hfields⟩
      · simp [totalLength] at hshort
      · exact ⟨before, f, hfields.trans List.concat_eq_append⟩
    rw [totalLength_concat] at hshort
    exact ⟨before.length, by simp, by rw [widthCutting_value?, if_pos hshort]⟩
  · rintro ⟨i, hi, hnone⟩
    obtain ⟨before, f, rest, rfl, rfl⟩ : ∃ before f rest, fields = before ++ f :: rest
        ∧ before.length = i := by
      refine ⟨fields.take i, fields[i], fields.drop (i + 1), ?_, by simp; omega⟩
      rw [← List.drop_eq_getElem_cons hi, List.take_append_drop]
    rw [widthCutting_value?] at hnone
    split at hnone
    next hshort =>
      rw [totalLength_append]
      simp only [totalLength] at hshort ⊢
      omega
    · split at hnone <;> cases hnone

theorem fits_widthCutting (fields : List Field) (line : Text) :
    (widthCutting fields line).Fits fields :=
  ⟨length_lt_totalLength_iff, fun _ _ => rfl⟩

theorem fits_columnCutting (separator : Text) (fields : List Field) (line : Text) :
    (columnCutting separator fields line).Fits fields := by
  refine ⟨?_, fun _ _ => rfl⟩
  show (Text.splitOn separator line).length < fields.length
    ↔ ∃ i, i < fields.length ∧ (Text.splitOn separator line)[i]? = none
  simp only [List.getElem?_eq_none_iff]
  constructor
  · intro hshort
    exact ⟨_, hshort, Nat.le_refl _⟩
  · rintro ⟨i, hi, hnone⟩
    exact Nat.lt_of_le_of_lt hnone hi

theorem walkFields_eq_walkWidths {s : Section} (h : s.isFixedWidth = true) (target : Target) :
    s.walkFields template line target = walkWidths template s.fields line target := by
  unfold walkFields
  split
  next hempty =>
    rw [List.isEmpty_iff.mp hempty]
    rfl
  next => rfl

theorem walkFields_eq_walkColumns {s : Section} {separator : Text}
    (h : s.fieldSeparator = .text separator) (hreal : separator ≠ noSeparator)
    (target : Target) :
    s.walkFields template line target
      = walkColumns template (Text.splitOn separator line).length s.fields
        (Text.splitOn separator line) target := by
  have hcolumns : s.isFixedWidth = false := by
    rw [isFixedWidth, h]
    exact beq_false_of_ne hreal
  unfold walkFields
  split
  next hempty =>
    rw [List.isEmpty_iff.mp hempty, walkColumns.eq_def]
  next =>
    rw [hcolumns, if_neg Bool.false_ne_true, h]
    rfl

/-- A walk over the fields of a section gives each of them the value at its position: in a table of
fixed widths the characters behind those of the fields in front of it, in a separated one the column
of its index. In the table of fixed widths the values are in their order the beginning of the line.
When the walk fails, the target shows the assignments in front of the field that failed, and the
fault tells a line that is too short from a value that cannot be read. -/
theorem walkFields_positions (s : Section) (template : Template) (line : Text) :
    (s.isFixedWidth = true → Measured s.fields →
        Walks template s.fields (widthCutting s.fields line) (s.walkFields template line)
          ∧ ∀ values, (widthCutting s.fields line).Gives values → values.flatten <+: line)
      ∧ ∀ separator, s.fieldSeparator = .text separator → separator ≠ noSeparator →
        separator ≠ [] →
        Walks template s.fields (columnCutting separator s.fields line)
          (s.walkFields template line) := by
  refine ⟨fun hfixed hmeasured => ⟨?_, fun values hgives => ?_⟩,
    fun separator hseparator hreal _ => ?_⟩
  · have hwalk : s.walkFields template line
        = (widthCutting s.fields line).walk template s.fields 0 := by
      funext target
      rw [walkFields_eq_walkWidths hfixed]
      exact walkWidths_eq_walk [] hmeasured (Nat.zero_le _) target
    rw [hwalk]
    exact (fits_widthCutting s.fields line).walks template
  · exact flatten_prefix_of_gives [] hmeasured (Nat.zero_le _) hgives
  · have hwalk : s.walkFields template line
        = (columnCutting separator s.fields line).walk template s.fields 0 := by
      funext target
      rw [walkFields_eq_walkColumns hseparator hreal]
      exact walkColumns_eq_walk separator s.fields 0 target
    rw [hwalk]
    exact (fits_columnCutting separator s.fields line).walks template

/-! ## Rents -/

def rents : Section where
  name := .ofString "Rents"
  kind := .table
  fieldSeparator := .text noSeparator
  columns := [.wide "Date" "PostingDate" 11, .wide "Text" "Description" 8, .named "Amount" "Amount"]

def rentsLayout : Template where
  name := .ofString "Rents"
  source := .ofString "Text"
  sections := [rents]

def rentMovement : Movement where
  bookingDate := some ⟨2024, 6, 3, by decide⟩
  subject := some "Miete".toList
  amount := ⟨true, 70000, -2⟩

theorem measured_rents : Measured rents.fields := by
  constructor <;> decide

/-- A row is taken apart at its positions; one that ends behind the date lacks the text. -/
theorem walkFields_positions_rent :
    rents.isFixedWidth = true ∧ Measured rents.fields
      ∧ rents.walkFields rentsLayout "03.06.2024 Miete     -700,00".toList ⟨{}, some {}⟩
        = (⟨{}, some rentMovement⟩, .ok ())
      ∧ ["03.06.2024 ".toList, "Miete   ".toList].flatten <+: "03.06.2024 Miete     -700,00".toList
      ∧ ∃ target' fault, rents.walkFields rentsLayout "03.06.2024 Rent".toList ⟨{}, some {}⟩
        = (target', .error fault) ∧ fault.isMissingField = true := by
  obtain ⟨hrow, hprefix⟩ := (walkFields_positions rents rentsLayout
    "03.06.2024 Miete     -700,00".toList).1 rfl measured_rents
  obtain ⟨hshort, -⟩ := (walkFields_positions rents rentsLayout "03.06.2024 Rent".toList).1 rfl
    measured_rents
  have hless : "03.06.2024 Rent".toList.length < totalLength rents.fields := by decide
  exact ⟨rfl, measured_rents,
    (hrow.ok_iff _ _).mpr ⟨["03.06.2024 ".toList, "Miete   ".toList, "  -700,00".toList],
      by decide, by decide, rfl⟩,
    hprefix _ (by decide),
    (hshort.missing_iff _).mpr ⟨hless, ["03.06.2024 ".toList], _, by decide, by decide, rfl⟩⟩

end Section

end BankStatement
