import BankStatement.Proofs.Reading.Assigning
import BankStatement.Proofs.Session.Growth
import BankStatement.Session.Record

/-!
# The assignments of a line

Which values a line has for which variables does not depend on what they are assigned to: fields are
cut by position and patterns are searched in the line alone. `Section.plan` is the list of these
assignments in the order in which they are made, with what is missing behind them; taking the values
of a line is carrying out its plan (`takeValues_eq`).

So a line fails at a place in its plan: the assignments in front of it have been made, and nothing
else has (`exists_made`). The header has then gone through the header variables among them
(`header_of_makeAll`), and what becomes of the movement does not depend on the header
(`readRecord_header`).

The program interleaves finding values and assigning them, in four functions with a fault in each
(`walkWidths`, `walkColumns`, `assignGroups`, `applyAll`). Each of them is shown equal to carrying
out a plan, and from there on there is one recursion with one fault. Fields that a line is too short
for are the reason why a plan has a second part: they fail without an assignment, behind all that
come before them.

An assignment goes to the header or to the movement and looks at no more than its own side
(`make_cases`). This is why the two sides can be told apart in the result of a plan, although they
are written in turn.
-/

namespace BankStatement

/-- A value on its way to a variable. -/
structure Assignment where
  target : Value
  value : Text
  multiplier : Int
  deriving Repr

/-- What a line has to be assigned, in order, and what is missing behind it. -/
structure Plan where
  assignments : List Assignment := []
  missing : Option Fault := none

namespace Assignment

variable {template : Template} {a : Assignment} {as : List Assignment} {target target' : Target}
  {header header' : Header} {m? : Option Movement}

/-! ## One assignment -/

def make (template : Template) (a : Assignment) (target : Target) : Except Fault Target :=
  (target.assignNamed template a.target a.value .always a.multiplier).map (·.2)

/-- A header with the value, if that goes to the header and can be read. -/
def intoHeader (template : Template) (header : Header) (a : Assignment) : Header :=
  match a.make template ⟨header, none⟩ with
  | .ok target => target.header
  | .error _ => header

/-- Whether a value can be assigned to a header is the same for all headers. -/
theorem header_assign_error (template : Template) (v : HeaderVariable) (name value : Text)
    (mode : Mode) (header header' : Header) :
    (header.assign template v name value mode).map (fun _ => ())
      = (header'.assign template v name value mode).map (fun _ => ()) := by
  cases v with
  | periodStart | periodEnd =>
      simp only [Header.assign, bind, Except.bind, pure, Except.pure]
      cases template.readDate name value <;> rfl
  | _ => rfl

/-- An assignment goes to the header, whatever the movement, or to the movement, whatever the
header. -/
theorem make_cases (template : Template) (a : Assignment) :
    (∃ name v, a.target.headerVariable? = some v ∧ ∀ header m?, a.make template ⟨header, m?⟩
        = (header.assign template v name a.value .always).map (⟨·, m?⟩))
      ∨ a.target.headerVariable? = none ∧ ∀ header m?, a.make template ⟨header, m?⟩
        = (a.make template ⟨{}, m?⟩).map fun target => ⟨header, target.movement⟩ := by
  unfold make
  cases htarget : a.target with
  | text name =>
      cases hv : HeaderVariable.ofName? name with
      | some v =>
          refine .inl ⟨name, v, hv, fun header m? => ?_⟩
          simp only [Target.assignNamed, Target.assign, hv, bind, Except.bind, pure, Except.pure]
          cases header.assign template v name a.value .always <;> rfl
      | none =>
          refine .inr ⟨hv, fun header m? => ?_⟩
          simp only [Target.assignNamed, Target.assign, hv, bind, Except.bind, pure, Except.pure]
          cases m? with
          | none => rfl
          | some m =>
              cases MovementVariable.ofName? name with
              | none => rfl
              | some w =>
                  simp only
                  cases m.assign template w name a.value .always a.multiplier <;> rfl
  | _ => exact .inr ⟨rfl, fun _ _ => rfl⟩

theorem intoHeader_of_no_header (h : a.target.headerVariable? = none) (header : Header) :
    a.intoHeader template header = header := by
  unfold intoHeader
  rcases make_cases template a with ⟨name, v, hv, -⟩ | ⟨-, hmake⟩
  · rw [h] at hv; cases hv
  · rw [hmake]
    cases a.make template ⟨{}, none⟩ <;> rfl

theorem header_of_make (h : a.make template ⟨header, m?⟩ = .ok target) :
    target.header = a.intoHeader template header := by
  rcases make_cases template a with ⟨name, v, -, hmake⟩ | ⟨hv, hmake⟩
  · rw [intoHeader, hmake]
    rw [hmake] at h
    cases hassign : header.assign template v name a.value .always with
    | error => rw [hassign] at h; cases h
    | ok => rw [hassign] at h; cases h; rfl
  · rw [intoHeader_of_no_header hv]
    rw [hmake] at h
    cases hfresh : a.make template ⟨{}, m?⟩ with
    | error => rw [hfresh] at h; cases h
    | ok => rw [hfresh] at h; cases h; rfl

/-- What an assignment makes of the movement, and whether it fails, is the same for all headers. -/
theorem movement_of_make (template : Template) (a : Assignment) (header header' : Header)
    (m? : Option Movement) :
    (a.make template ⟨header, m?⟩).map (·.movement)
      = (a.make template ⟨header', m?⟩).map (·.movement) := by
  rcases make_cases template a with ⟨name, v, -, hmake⟩ | ⟨-, hmake⟩
  · have hsame := header_assign_error template v name a.value .always header header'
    rw [hmake, hmake]
    cases h : header.assign template v name a.value .always <;>
      cases h' : header'.assign template v name a.value .always <;>
      simp_all [Except.map]
  · rw [hmake header, hmake header']
    cases a.make template ⟨{}, m?⟩ <;> rfl

/-- An assignment does not mark a movement as an error. -/
theorem isError_of_make {m : Movement} (hm : target.movement = some m)
    (h : a.make template target = .ok target') :
    ∃ m', target'.movement = some m' ∧ m'.isError = m.isError := by
  unfold make Target.assignNamed at h
  split at h
  next name _ =>
    cases hassign : target.assign template name a.value .always a.multiplier with
    | error => rw [hassign] at h; cases h
    | ok made =>
        rw [hassign] at h
        cases h
        rcases Target.assign_movement hm hassign with hsame | ⟨v, m', -, hm', hmovement⟩
        · exact ⟨m, hsame, rfl⟩
        · exact ⟨m', hmovement, (Movement.assign_marks hm').2⟩
  · cases h
  · cases h
  · cases h; exact ⟨m, hm, rfl⟩

/-! ## Several assignments -/

/-- Makes assignments one after the other, up to the first that fails. -/
def makeAll (template : Template) : List Assignment → Target → Step Target Unit
  | [], target => (target, .ok ())
  | a :: as, target =>
    match a.make template target with
    | .error fault => (target, .error fault)
    | .ok target => makeAll template as target

theorem makeAll_append (as others : List Assignment) (target : Target) :
    makeAll template (as ++ others) target = match makeAll template as target with
      | (target, .error fault) => (target, .error fault)
      | (target, .ok ()) => makeAll template others target := by
  induction as generalizing target with
  | nil => rfl
  | cons a as ih =>
      simp only [List.cons_append, makeAll]
      cases a.make template target with
      | error => rfl
      | ok target => exact ih target

/-- The assignments that have been made are those in front of the one that failed. They make up a
beginning of the list, so what is left of a failed line can be told without going through its values
again. -/
theorem exists_made {res : Except Fault Unit} (h : makeAll template as target = (target', res)) :
    ∃ made left, as = made ++ left ∧ makeAll template made target = (target', .ok ())
      ∧ (res = .ok () → left = [])
      ∧ ∀ fault, res = .error fault →
        ∃ a rest, left = a :: rest ∧ a.make template target' = .error fault := by
  induction as generalizing target with
  | nil => cases h; exact ⟨[], [], rfl, rfl, fun _ => rfl, by simp⟩
  | cons a as ih =>
      simp only [makeAll] at h
      split at h
      next fault hmake =>
        cases h
        refine ⟨[], a :: as, rfl, rfl, by simp, ?_⟩
        rintro _ ⟨⟩
        exact ⟨a, as, rfl, hmake⟩
      next target₁ hmake =>
        obtain ⟨made, left, rfl, hmade, hok, herror⟩ := ih h
        refine ⟨a :: made, left, rfl, ?_, hok, herror⟩
        rw [makeAll, hmake]
        exact hmade

/-- The header goes through the assignments that are made, and through no others. -/
theorem header_of_makeAll (h : makeAll template as target = (target', .ok ())) :
    target'.header = as.foldl (intoHeader template) target.header := by
  induction as generalizing target with
  | nil => cases h; rfl
  | cons a as ih =>
      simp only [makeAll] at h
      split at h
      · cases h
      next target₁ hmake => rw [ih h, header_of_make hmake, List.foldl_cons]

theorem isError_of_makeAll {m : Movement} {res : Except Fault Unit} (hm : target.movement = some m)
    (h : makeAll template as target = (target', res)) :
    ∃ m', target'.movement = some m' ∧ m'.isError = m.isError := by
  induction as generalizing target m with
  | nil => cases h; exact ⟨m, hm, rfl⟩
  | cons a as ih =>
      simp only [makeAll] at h
      split at h
      · cases h; exact ⟨m, hm, rfl⟩
      next target₁ hmake =>
        obtain ⟨m₁, hm₁, herror₁⟩ := isError_of_make hm hmake
        obtain ⟨m', hm', herror⟩ := ih hm₁ h
        exact ⟨m', hm', herror.trans herror₁⟩

/-- What assignments make of the movement, and whether one of them fails, is the same for all
headers. -/
theorem movement_of_makeAll (template : Template) (as : List Assignment) (header header' : Header)
    (m? : Option Movement) :
    (makeAll template as ⟨header, m?⟩).1.movement = (makeAll template as ⟨header', m?⟩).1.movement
      ∧ (makeAll template as ⟨header, m?⟩).2 = (makeAll template as ⟨header', m?⟩).2 := by
  induction as generalizing header header' m? with
  | nil => exact ⟨rfl, rfl⟩
  | cons a as ih =>
      have hsame := movement_of_make template a header header' m?
      simp only [makeAll]
      cases hmake : a.make template ⟨header, m?⟩ with
      | error fault =>
          cases hmake' : a.make template ⟨header', m?⟩ with
          | error fault' => rw [hmake, hmake'] at hsame; cases hsame; exact ⟨rfl, rfl⟩
          | ok => rw [hmake, hmake'] at hsame; cases hsame
      | ok target =>
          cases hmake' : a.make template ⟨header', m?⟩ with
          | error => rw [hmake, hmake'] at hsame; cases hsame
          | ok target' =>
              obtain ⟨h₁, m₁⟩ := target
              obtain ⟨h₂, m₂⟩ := target'
              rw [hmake, hmake'] at hsame
              obtain rfl : m₁ = m₂ := Except.ok.inj hsame
              exact ih h₁ h₂ m₁

end Assignment

/-! ## The plan of a line -/

namespace Plan

/-- Carries a plan out, up to the first assignment that fails or to what is missing. -/
def carryOut (template : Template) (p : Plan) (target : Target) : Step Target Unit :=
  match Assignment.makeAll template p.assignments target with
  | (target, .error fault) => (target, .error fault)
  | (target, .ok ()) =>
    match p.missing with
    | some fault => (target, .error fault)
    | none => (target, .ok ())

def cons? (a? : Option Assignment) (p : Plan) : Plan :=
  { p with assignments := a?.toList ++ p.assignments }

end Plan

def Field.assignment? (f : Field) (value : Text) : Option Assignment :=
  if f.target.isTruthy then some ⟨f.target, value, f.multiplier⟩ else none

/-- The assignment of a group, if it took some text. -/
def Rule.groupAssignment? (multiplier : Int) : Text × Option Text → Option Assignment
  | (name, some (c :: t)) => some ⟨.text name, c :: t, multiplier⟩
  | _ => none

/-- The assignments of the groups of a rule's match. -/
def Rule.assignments (r : Rule) (line : Text) : List Assignment :=
  match r.pattern.search? line with
  | none => []
  | some found => (r.pattern.namedGroups found).filterMap (groupAssignment? r.multiplier)

namespace Section

def widthPlan : List Field → Text → Plan
  | [], _ => {}
  | f :: fields, left =>
    let length := if f.length = 0 then Int.ofNat left.length else f.length
    if Int.ofNat left.length < length then
      { missing := some (.fieldTooShort f.name length left.length) }
    else
      let (value, rest) := cut length left
      (widthPlan fields rest).cons? (f.assignment? value)

def columnPlan (count : Nat) : List Field → List Text → Plan
  | [], _ => {}
  | f :: _, [] => { missing := some (.fieldMissing f.name count) }
  | f :: fields, value :: values => (columnPlan count fields values).cons? (f.assignment? value)

def fieldPlan (s : Section) (line : Text) : Plan :=
  if s.fields.isEmpty then {}
  else if s.isFixedWidth then widthPlan s.fields line
  else
    match s.fieldSeparator.asText with
    | .error fault => { missing := some fault }
    | .ok separator =>
      let values := Text.splitOn separator line
      columnPlan values.length s.fields values

/-- The assignments of the rules of a role, found or not. -/
def ruleAssignments (s : Section) (role : Role) (line : Text) : List Assignment :=
  (s.rulesOf role).flatMap (·.assignments line)

/-- Whether a primary rule is found in a line. -/
def isMatched (s : Section) (line : Text) : Bool :=
  (s.rulesOf .primary).any fun r => (r.pattern.search? line).isSome

/-- What a line has to be assigned: fields, primary rules, and after a primary match the additional
rules if `withAdditional` says so. Without all its fields a line gets no further than to them. -/
def plan (s : Section) (withAdditional : Bool) (line : Text) : Plan :=
  let fields := s.fieldPlan line
  if fields.missing.isSome then fields
  else
    { assignments := fields.assignments ++ s.ruleAssignments .primary line
        ++ if s.isMatched line && withAdditional then s.ruleAssignments .additional line else [] }

variable {template : Template} {target : Target}

theorem assignField_eq (f : Field) (value : Text) (target : Target) :
    assignField template f value target
      = match f.assignment? value with
        | none => .ok target
        | some a => a.make template target := by
  unfold assignField Field.assignment?
  split
  · simp only [Assignment.make, bind, Except.bind, pure, Except.pure]
    cases target.assignNamed template f.target value .always f.multiplier <;> rfl
  · rfl

theorem carryOut_cons? (f : Field) (value : Text) (p : Plan) (target : Target) :
    (p.cons? (f.assignment? value)).carryOut template target
      = match assignField template f value target with
        | .error fault => (target, .error fault)
        | .ok target => p.carryOut template target := by
  rw [assignField_eq]
  cases f.assignment? value with
  | none => rfl
  | some a =>
      simp only [Plan.carryOut, Plan.cons?, Option.toList_some, List.singleton_append,
        Assignment.makeAll]
      cases a.make template target <;> rfl

theorem walkWidths_eq (fields : List Field) (left : Text) (target : Target) :
    walkWidths template fields left target = (widthPlan fields left).carryOut template target := by
  induction fields generalizing left target with
  | nil => rfl
  | cons f fields ih =>
      simp only [walkWidths, widthPlan]
      generalize (if f.length = 0 then Int.ofNat left.length else f.length) = length
      split
      · rfl
      · rw [carryOut_cons?]
        cases assignField template f (cut length left).1 target with
        | error => rfl
        | ok target' => exact ih _ target'

theorem walkColumns_eq (count : Nat) (fields : List Field) (values : List Text)
    (target : Target) :
    walkColumns template count fields values target
      = (columnPlan count fields values).carryOut template target := by
  induction fields generalizing values target with
  | nil => rw [walkColumns.eq_def]; rfl
  | cons f fields ih =>
      cases values with
      | nil => rfl
      | cons value values =>
          rw [walkColumns, columnPlan, carryOut_cons?]
          cases assignField template f value target with
          | error => rfl
          | ok target' => exact ih values target'

theorem walkFields_eq (s : Section) (line : Text) (target : Target) :
    s.walkFields template line target = (s.fieldPlan line).carryOut template target := by
  unfold walkFields fieldPlan
  split
  · rfl
  · split
    · exact walkWidths_eq ..
    · cases s.fieldSeparator.asText with
      | error => rfl
      | ok separator => exact walkColumns_eq ..

end Section

namespace Rule

variable {template : Template}

theorem assignGroups_eq (multiplier : Int) (groups : List (Text × Option Text)) (target : Target) :
    assignGroups template .always multiplier groups target
      = Assignment.makeAll template (groups.filterMap (groupAssignment? multiplier)) target := by
  induction groups generalizing target with
  | nil => rfl
  | cons group groups ih =>
      obtain ⟨name, value⟩ := group
      rcases value with _ | _ | ⟨c, t⟩
      · exact ih target
      · exact ih target
      · have hmake : Assignment.make template ⟨.text name, c :: t, multiplier⟩ target
            = (target.assign template name (c :: t) .always multiplier).map (·.2) := rfl
        simp only [assignGroups, List.filterMap_cons, groupAssignment?, Assignment.makeAll, hmake,
          ih]
        cases target.assign template name (c :: t) .always multiplier <;> rfl

/-- Trying a rule makes its assignments; it is found or not whatever they do. -/
theorem apply_eq (r : Rule) (line : Text) (target : Target) :
    r.apply template line .always target
      = ((Assignment.makeAll template (r.assignments line) target).1,
        (Assignment.makeAll template (r.assignments line) target).2.map fun _ =>
          (r.pattern.search? line).isSome) := by
  unfold apply assignments
  cases r.pattern.search? line with
  | none => rfl
  | some found =>
      simp only [assignGroups_eq]
      split <;> simp_all [Except.map]

theorem applyAll_eq (rules : List Rule) (line : Text) (target : Target) :
    applyAll template line .always rules target
      = ((Assignment.makeAll template (rules.flatMap (·.assignments line)) target).1,
        (Assignment.makeAll template (rules.flatMap (·.assignments line)) target).2.map fun _ =>
          rules.any fun r => (r.pattern.search? line).isSome) := by
  induction rules generalizing target with
  | nil => rfl
  | cons r rules ih =>
      simp only [applyAll, apply_eq, List.flatMap_cons, Assignment.makeAll_append, List.any_cons]
      cases Assignment.makeAll template (r.assignments line) target with
      | mk target₁ made =>
          cases made with
          | error => rfl
          | ok =>
              simp only [Except.map, ih]
              cases Assignment.makeAll template (rules.flatMap (·.assignments line)) target₁ with
              | mk target₂ others => cases others <;> rfl

end Rule

namespace Section

variable {template : Template} {today : Date} {withAdditional : Bool} {line : Text}

theorem applyAll_primary (s : Section) (line : Text) (target : Target) :
    Rule.applyAll template line .always (s.rulesOf .primary) target
      = ((Assignment.makeAll template (s.ruleAssignments .primary line) target).1,
        (Assignment.makeAll template (s.ruleAssignments .primary line) target).2.map fun _ =>
          s.isMatched line) :=
  Rule.applyAll_eq ..

/-- Taking the values of a line is carrying out its plan, whatever they are assigned to. Whether a
primary rule is found decides if the additional rules belong to the plan, and that is a question
about the line alone. -/
theorem takeValues_eq (s : Section) (withAdditional : Bool) (line : Text) (target : Target) :
    s.takeValues template withAdditional line target
      = (s.plan withAdditional line).carryOut template target := by
  rw [takeValues, walkFields_eq, plan]
  cases hmissing : (s.fieldPlan line).missing with
  | some fault =>
      simp only [Option.isSome_some, if_true, Plan.carryOut, hmissing]
      cases Assignment.makeAll template (s.fieldPlan line).assignments target with
      | mk target₁ made => cases made <;> rfl
  | none =>
      simp only [Option.isSome_none, Bool.false_eq_true, if_false, Plan.carryOut, hmissing,
        Assignment.makeAll_append, applyAll_primary]
      -- fields, primary rules and additional rules in turn, each behind what has not failed
      obtain ⟨target₁, _ | _⟩ := Assignment.makeAll template (s.fieldPlan line).assignments target
      · rfl
      simp only
      obtain ⟨target₂, _ | _⟩ :=
        Assignment.makeAll template (s.ruleAssignments .primary line) target₁
      · rfl
      simp only [Except.map]
      cases s.isMatched line && withAdditional with
      | false => rfl
      | true =>
          simp only [if_true, Rule.applyAll_eq, ruleAssignments]
          cases Assignment.makeAll template
              ((s.rulesOf .additional).flatMap (·.assignments line)) target₂ with
          | mk target₃ made => cases made <;> rfl

/-! ## What a line says, from its plan -/

/-- What a plan makes of the movement, and whether it fails, is the same for all headers. -/
theorem movement_of_carryOut (template : Template) (p : Plan) (header header' : Header)
    (m? : Option Movement) :
    (p.carryOut template ⟨header, m?⟩).1.movement = (p.carryOut template ⟨header', m?⟩).1.movement
      ∧ (p.carryOut template ⟨header, m?⟩).2 = (p.carryOut template ⟨header', m?⟩).2 := by
  obtain ⟨hmovement, hresult⟩ :=
    Assignment.movement_of_makeAll template p.assignments header header' m?
  unfold Plan.carryOut
  generalize Assignment.makeAll template p.assignments ⟨header, m?⟩ = out at hmovement hresult ⊢
  generalize Assignment.makeAll template p.assignments ⟨header', m?⟩ = out' at hmovement hresult ⊢
  obtain ⟨target, result⟩ := out
  obtain ⟨target', result'⟩ := out'
  obtain rfl : result = result' := hresult
  cases result with
  | error => exact ⟨hmovement, rfl⟩
  | ok => cases p.missing <;> exact ⟨hmovement, rfl⟩

/-- What a line says does not depend on the header, though it may change it. -/
theorem readRecord_header (s : Section) (template : Template) (today : Date) (withAdditional : Bool)
    (line : Text) (header header' : Header) :
    (s.readRecord template today withAdditional line header).2
      = (s.readRecord template today withAdditional line header').2 := by
  obtain ⟨hmovement, hresult⟩ := movement_of_carryOut template
    (s.plan withAdditional line) header header' (some {})
  unfold readRecord
  split
  · rfl
  rw [takeValues_eq, takeValues_eq]
  generalize Plan.carryOut template _ ⟨header, _⟩ = out at hmovement hresult ⊢
  generalize Plan.carryOut template _ ⟨header', _⟩ = out' at hmovement hresult ⊢
  obtain ⟨target, result⟩ := out
  obtain ⟨target', result'⟩ := out'
  obtain rfl : result = result' := hresult
  cases result with
  | error =>
      simp only
      split <;> rfl
  | ok =>
      obtain ⟨h, m⟩ := target
      obtain rfl : m = target'.movement := hmovement
      rfl

end Section

end BankStatement
