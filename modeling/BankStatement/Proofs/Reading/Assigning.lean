import BankStatement.Proofs.Text.Trimming
import BankStatement.Reading.Line

/-!
# Values that go to a movement

What assigning a value does to the movement that is being read: one lemma for each variable whose
value is read, and from them what the column of a table and the group of a rule do. Everything here
is about values that take the place of old ones, as in the columns and rules of a table.

`PlacesIn` joins the two look-ups that stand between a name in a template and a field of a movement:
the name is no variable of the header, which would be tried first, and it is this variable of the
movement. It is decided by computation for the names that exist (`placesIn_label`), and the lemmas
about columns and groups ask for it instead of for a name, so that a proof about a bank's template
names the variable only.

The last part takes a line apart, one column or one group at a time, in the order in which the
program goes through them. These are the equations with which statements of a bank are read; what
holds for every template is in `Proofs.Reading.Assignments`.
-/

namespace BankStatement

variable {template : Template} {m m' : Movement} {name value : Text} {multiplier : Int}

/-! ## One variable each -/

namespace Movement

theorem assign_bookingDate_of {d : Date} (h : template.readDate name value = .ok d) :
    m.assign template .bookingDate name value .always multiplier
      = .ok { m with bookingDate := some d } := by
  simp only [assign, h, Except.bind, bind, pure, Except.pure, Mode.merge]
  rfl

theorem assign_bookingDate_error {fault : Fault} {mode : Mode}
    (h : template.readDate name value = .error fault) :
    m.assign template .bookingDate name value mode multiplier = .error fault := by
  simp only [assign, h, Except.bind, bind]

theorem assign_valutaDate_of {d : Date} (h : template.readDate name value = .ok d) :
    m.assign template .valutaDate name value .always multiplier
      = .ok { m with valutaDate := some d } := by
  simp only [assign, h, Except.bind, bind, pure, Except.pure, Mode.merge]
  rfl

theorem assign_amount_merge {a : Decimal} (h : template.readAmount name value = .ok a)
    (mode : Mode) :
    m.assign template .amount name value mode multiplier
      = .ok { m with
          amount := mode.merge (!m.amount.isZero) m.amount (a * Decimal.ofInt multiplier) } := by
  simp only [assign, h, Except.bind, bind, pure, Except.pure]

theorem assign_amount_of {a : Decimal} (h : template.readAmount name value = .ok a) :
    m.assign template .amount name value .always multiplier
      = .ok { m with amount := a * Decimal.ofInt multiplier } :=
  assign_amount_merge h .always

theorem assign_postingDescription_of {t : Text} (h : template.correct (Text.strip value) = .ok t) :
    m.assign template .postingDescription name value .always multiplier
      = .ok { m with postingDescription := some t } := by
  simp only [assign, h, Except.bind, bind, pure, Except.pure, Mode.merge]
  rfl

theorem assign_subject_of {t : Text} (h : template.correct (Text.strip value) = .ok t) :
    m.assign template .subject name value .always multiplier
      = .ok { m with subject := some t } := by
  simp only [assign, h, Except.bind, bind, pure, Except.pure, Mode.merge]
  rfl

theorem assign_currencyCode_of :
    m.assign template .currencyCode name value .always multiplier
      = .ok { m with currencyCode := some (Text.strip value) } := rfl

/-- A counterparty grows by every value. -/
theorem assign_counterparty_of {t : Text}
    (h : template.correct (Text.strip (m.counterparty.getD [] ++ ' ' :: Text.strip value))
      = .ok t) :
    m.assign template .counterparty name value .always multiplier
      = .ok { m with counterparty := some t } := by
  simp only [assign, h, Except.bind, bind, pure, Except.pure]

theorem assign_counterparty_first {t : Text} (hm : m.counterparty = none)
    (h : template.correct (Text.strip value) = .ok t) :
    m.assign template .counterparty name value .always multiplier
      = .ok { m with counterparty := some t } := by
  refine assign_counterparty_of ?_
  rw [hm, Option.getD_none, List.nil_append, Text.strip_blank_cons, h]

end Movement

/-! ## Columns and groups -/

variable {header : Header} {v : MovementVariable}

/-- The variable of headers that a target names. -/
def Value.headerVariable? : Value → Option HeaderVariable
  | .text name => HeaderVariable.ofName? name
  | _ => none

/-- A name that is a variable of movements and none of headers. -/
structure PlacesIn (name : Text) (v : MovementVariable) : Prop where
  header : HeaderVariable.ofName? name = none
  movement : MovementVariable.ofName? name = some v

/-- The name of a variable in templates. -/
def MovementVariable.label : MovementVariable → Text
  | .bookingDate => "PostingDate".toList
  | .valutaDate => "ValutaDate".toList
  | .counterparty => "SourceName".toList
  | .postingDescription => "PostingDescription".toList
  | .subject => "Description".toList
  | .currencyCode => "CurrencyCode".toList
  | .amount => "Amount".toList
  | .quantity => "Quantity".toList

theorem placesIn_label (v : MovementVariable) : PlacesIn v.label v := by
  cases v <;> exact ⟨by decide, by decide⟩

theorem PlacesIn.ne_nil (h : PlacesIn name v) : name ≠ [] := by
  rintro rfl
  have hnone : MovementVariable.ofName? [] = none := by decide
  rw [h.movement] at hnone
  cases hnone

theorem Target.assign_of_places {mode : Mode} (hname : PlacesIn name v)
    (h : m.assign template v name value mode multiplier = .ok m') :
    Target.assign template name value mode multiplier ⟨header, some m⟩
      = .ok (true, ⟨header, some m'⟩) := by
  simp only [Target.assign, hname.header, hname.movement, h, Except.bind, bind, pure, Except.pure]

theorem Target.assign_error {mode : Mode} {fault : Fault} (hname : PlacesIn name v)
    (h : m.assign template v name value mode multiplier = .error fault) :
    Target.assign template name value mode multiplier ⟨header, some m⟩ = .error fault := by
  simp only [Target.assign, hname.header, hname.movement, h, Except.bind, bind]

namespace Section

variable {f : Field} {fields : List Field} {values : List Text} {count : Nat} {target : Target}

theorem assignField_text (htarget : f.target = .text name) (hne : name ≠ []) :
    assignField template f value target
      = (target.assign template name value .always f.multiplier).map (·.2) := by
  have htruthy : f.target.isTruthy = true := by
    obtain ⟨c, t, rfl⟩ := List.exists_cons_of_ne_nil hne
    rw [htarget]
    rfl
  rw [assignField, if_pos htruthy, htarget]
  rfl

theorem assignField_of_places (htarget : f.target = .text name) (hname : PlacesIn name v)
    (h : m.assign template v name value .always f.multiplier = .ok m') :
    assignField template f value ⟨header, some m⟩ = .ok ⟨header, some m'⟩ := by
  rw [assignField_text htarget hname.ne_nil, Target.assign_of_places hname h]
  rfl

theorem assignField_error {fault : Fault} (htarget : f.target = .text name)
    (hname : PlacesIn name v)
    (h : m.assign template v name value .always f.multiplier = .error fault) :
    assignField template f value ⟨header, some m⟩ = .error fault := by
  rw [assignField_text htarget hname.ne_nil, Target.assign_error hname h]
  rfl

/-- A column without a variable is skipped. -/
theorem assignField_skipped (h : f.target = .text []) :
    assignField template f value target = .ok target := by
  rw [assignField, h]
  rfl

theorem walkColumns_cons {target' : Target}
    (h : assignField template f value target = .ok target') :
    walkColumns template count (f :: fields) (value :: values) target
      = walkColumns template count fields values target' := by
  rw [walkColumns, h]

theorem walkColumns_error {fault : Fault}
    (h : assignField template f value target = .error fault) :
    walkColumns template count (f :: fields) (value :: values) target = (target, .error fault) := by
  rw [walkColumns, h]

/-- A column of a fixed width takes as many characters. -/
theorem walkWidths_cons {rest : Text} {target' : Target} (hlen : f.length = value.length)
    (hne : value ≠ []) (h : assignField template f value target = .ok target') :
    walkWidths template (f :: fields) (value ++ rest) target
      = walkWidths template fields rest target' := by
  have hpos : 0 < value.length := List.length_pos_iff.mpr hne
  have hwide : f.length ≠ 0 := by omega
  have hshort : ¬ Int.ofNat (value ++ rest).length < f.length := by
    rw [List.length_append, Int.ofNat_eq_natCast]
    omega
  have hcut : cut f.length (value ++ rest) = (value, rest) := by
    rw [cut_of_nonneg (by omega), hlen, Int.toNat_natCast, List.take_left, List.drop_left]
  simp only [walkWidths, if_neg hwide, if_neg hshort, hcut, h]

theorem cut_length (t : Text) : cut (Int.ofNat t.length) t = (t, []) := by
  simp [cut]

/-- A column without a width takes what is left. -/
theorem walkWidths_rest {target' : Target} (hlen : f.length = 0)
    (h : assignField template f value target = .ok target') :
    walkWidths template (f :: fields) value target = walkWidths template fields [] target' := by
  simp only [walkWidths, if_pos hlen, Int.lt_irrefl, if_false, cut_length, h]

end Section

namespace Rule

variable {mode : Mode} {groups : List (Text × Option Text)} {target : Target}

theorem assignGroups_cons (hne : value ≠ []) (hname : PlacesIn name v)
    (h : m.assign template v name value mode multiplier = .ok m') :
    assignGroups template mode multiplier ((name, some value) :: groups) ⟨header, some m⟩
      = assignGroups template mode multiplier groups ⟨header, some m'⟩ := by
  obtain ⟨c, t, rfl⟩ := List.exists_cons_of_ne_nil hne
  simp only [assignGroups, Target.assign_of_places hname h]

theorem assignGroups_error {fault : Fault} (hne : value ≠ []) (hname : PlacesIn name v)
    (h : m.assign template v name value mode multiplier = .error fault) :
    assignGroups template mode multiplier ((name, some value) :: groups) ⟨header, some m⟩
      = (⟨header, some m⟩, .error fault) := by
  obtain ⟨c, t, rfl⟩ := List.exists_cons_of_ne_nil hne
  simp only [assignGroups, Target.assign_error hname h]

/-- A group whose name is no variable gives nothing. -/
theorem assignGroups_unknown {taken : Option Text} (hheader : HeaderVariable.ofName? name = none)
    (hmovement : MovementVariable.ofName? name = none) :
    assignGroups template mode multiplier ((name, taken) :: groups) ⟨header, some m⟩
      = assignGroups template mode multiplier groups ⟨header, some m⟩ := by
  match taken with
  | none => rfl
  | some [] => rfl
  | some (c :: t) => simp only [assignGroups, Target.assign, hheader, hmovement]

/-- A group that took no part in the match, or no text, gives nothing. -/
theorem assignGroups_empty {taken : Option Text} (h : taken.getD [] = []) :
    assignGroups template mode multiplier ((name, taken) :: groups) target
      = assignGroups template mode multiplier groups target := by
  cases taken with
  | none => rfl
  | some t => cases h; rfl

theorem apply_of_fault {r : Rule} {line : Text} {found : Match} {target' : Target} {fault : Fault}
    (hfound : r.pattern.search? line = some found)
    (hgroups : assignGroups template mode r.multiplier (r.pattern.namedGroups found) target
      = (target', .error fault)) :
    r.apply template line mode target = (target', .error fault) := by
  simp only [apply, hfound, hgroups]

/-- A rule that is found does what its groups do. -/
theorem apply_of_found {r : Rule} {line : Text} {found : Match} {target' : Target}
    (hfound : r.pattern.search? line = some found)
    (hgroups : assignGroups template mode r.multiplier (r.pattern.namedGroups found) target
      = (target', .ok ())) :
    r.apply template line mode target = (target', .ok true) := by
  simp only [apply, hfound, hgroups]

end Rule

end BankStatement
