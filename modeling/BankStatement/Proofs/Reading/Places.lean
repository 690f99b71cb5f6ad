import BankStatement.Proofs.Reading.Assignments

/-!
# Assigning in place

A variable has a place in the header or in the movement. To assign it a value means to read the
value and then to put what it says into the place, unless the place is full and the mode says to
keep it. The counterparty is put in place whatever the mode, what stands there being part of what is
read.

`Target.assignInPlace` does so to a target that is there all the time: what has been put in place
stays there, also when something fails afterwards. Since all that can fail comes before the one
thing that is put in place, it leaves what `Target.assignNamed` returns, or, when that fails, the
target as it was (`outcome_assignInPlace`); and what it changes is the place of its variable and no
other (`assignInPlace_local`).

That an assignment is all or nothing cannot be seen on `assignNamed`, which returns a target or a
fault and could not return both. `InPlace` is a state that survives faults, so that a function in it
could leave a half-made change behind, and the statement says that this one does not.

A place is named by its variable, with a type of content of its own. `put` and `clear` are the two
ways to speak of it: the first one to say what an assignment does, the second one to say that
everything else is as before, for two targets that agree without a place differ in this place at
most.
-/

namespace BankStatement

variable {template : Template} {name value : Text} {mode : Mode} {multiplier : Int}

/-- A step that reads a value and merges it into a place reads it and keeps what held the place, or
has the value put there. -/
theorem Mode.read_merge {α β σ : Type} (mode : Mode) (full : Bool) (old : β) (put : β → σ)
    (place : α → β) (e : Except Fault α) :
    (e >>= fun x => pure (put (mode.merge full old (place x))))
      = e.map fun x => mode.merge full (put old) (put (place x)) := by
  cases e with
  | error => rfl
  | ok x => exact congrArg Except.ok (apply_ite put _ _ _)

/-! ## Places of the header -/

namespace HeaderVariable

/-- What can stand in the place of a header variable. -/
abbrev Content : HeaderVariable → Type
  | accountNumber | iban | bankCode | accountHolder | description => Text
  | periodStart | periodEnd => Date

/-- What a value says for a header variable. -/
def read (template : Template) (name value : Text) : (v : HeaderVariable) → Except Fault v.Content
  | accountNumber | iban => .ok (Text.strip (Text.erase ' ' value))
  | bankCode | accountHolder | description => .ok (Text.strip value)
  | periodStart | periodEnd => template.readDate name value

end HeaderVariable

namespace Header

variable {h : Header}

/-- The header with something else in the place of a variable. -/
def put (h : Header) : (v : HeaderVariable) → v.Content → Header
  | .accountNumber, t => { h with accountNumber := t }
  | .iban, t => { h with iban := some t }
  | .bankCode, t => { h with bankCode := some t }
  | .accountHolder, t => { h with accountHolder := some t }
  | .periodStart, d => { h with periodStart := some d }
  | .periodEnd, d => { h with periodEnd := some d }
  | .description, t => { h with description := t }

/-- Whether something stands in the place of a variable. -/
def isFull (h : Header) : HeaderVariable → Bool
  | .accountNumber => !h.accountNumber.isEmpty
  | .iban => Text.isFilled h.iban
  | .bankCode => Text.isFilled h.bankCode
  | .accountHolder => Text.isFilled h.accountHolder
  | .periodStart => h.periodStart.isSome
  | .periodEnd => h.periodEnd.isSome
  | .description => !h.description.isEmpty

/-- The header without what stands in the place of a variable: headers that agree in this differ in
that place at most. -/
def clear (h : Header) : HeaderVariable → Header
  | .accountNumber => { h with accountNumber := [] }
  | .iban => { h with iban := none }
  | .bankCode => { h with bankCode := none }
  | .accountHolder => { h with accountHolder := none }
  | .periodStart => { h with periodStart := none }
  | .periodEnd => { h with periodEnd := none }
  | .description => { h with description := [] }

theorem clear_put (h : Header) (v : HeaderVariable) (x : v.Content) :
    (h.put v x).clear v = h.clear v := by
  cases v <;> rfl

/-- The header after an assignment of something that was read. -/
def store (mode : Mode) (v : HeaderVariable) (x : v.Content) (h : Header) : Header :=
  mode.merge (h.isFull v) h (h.put v x)

theorem clear_store (mode : Mode) (v : HeaderVariable) (x : v.Content) (h : Header) :
    (h.store mode v x).clear v = h.clear v := by
  unfold store Mode.merge
  split
  · rfl
  · exact clear_put h v x

theorem store_of_full {v : HeaderVariable} (hfull : h.isFull v = true) (x : v.Content) :
    h.store .onlyWhenEmpty v x = h := if_pos ⟨rfl, hfull⟩

/-- An assignment to the header reads the value and stores what it says. -/
theorem assign_eq (h : Header) (v : HeaderVariable) :
    h.assign template v name value mode
      = (v.read template name value).map (h.store mode v ·) := by
  cases v with
  | accountNumber => exact mode.read_merge _ _ ({ h with accountNumber := · }) id (.ok _)
  | iban => exact mode.read_merge _ _ ({ h with iban := · }) some (.ok _)
  | bankCode => exact mode.read_merge _ _ ({ h with bankCode := · }) some (.ok _)
  | accountHolder => exact mode.read_merge _ _ ({ h with accountHolder := · }) some (.ok _)
  | periodStart => exact mode.read_merge _ _ ({ h with periodStart := · }) some _
  | periodEnd => exact mode.read_merge _ _ ({ h with periodEnd := · }) some _
  | description => exact mode.read_merge _ _ ({ h with description := · }) id (.ok _)

end Header

/-! ## Places of a movement -/

namespace MovementVariable

/-- What can stand in the place of a movement variable. -/
abbrev Content : MovementVariable → Type
  | bookingDate | valutaDate => Date
  | counterparty | postingDescription | subject | currencyCode => Text
  | amount | quantity => Decimal

/-- What a value says for a movement variable. A counterparty goes on with the one that stands in
its place. -/
def read (template : Template) (m : Movement) (name value : Text) (multiplier : Int) :
    (v : MovementVariable) → Except Fault v.Content
  | bookingDate | valutaDate => template.readDate name value
  | counterparty =>
    template.correct (Text.strip (m.counterparty.getD [] ++ ' ' :: Text.strip value))
  | postingDescription | subject => template.correct (Text.strip value)
  | currencyCode => .ok (Text.strip value)
  | amount => (template.readAmount name value).map (· * Decimal.ofInt multiplier)
  | quantity => template.readAmount name value

end MovementVariable

namespace Movement

variable {m : Movement}

/-- The movement with something else in the place of a variable. -/
def put (m : Movement) : (v : MovementVariable) → v.Content → Movement
  | .bookingDate, d => { m with bookingDate := some d }
  | .valutaDate, d => { m with valutaDate := some d }
  | .counterparty, t => { m with counterparty := some t }
  | .postingDescription, t => { m with postingDescription := some t }
  | .subject, t => { m with subject := some t }
  | .currencyCode, t => { m with currencyCode := some t }
  | .amount, a => { m with amount := a }
  | .quantity, q => { m with quantity := some q }

/-- Whether something stands in the place of a variable. An amount of zero is none. -/
def isFull (m : Movement) : MovementVariable → Bool
  | .bookingDate => m.bookingDate.isSome
  | .valutaDate => m.valutaDate.isSome
  | .counterparty => Text.isFilled m.counterparty
  | .postingDescription => Text.isFilled m.postingDescription
  | .subject => Text.isFilled m.subject
  | .currencyCode => Text.isFilled m.currencyCode
  | .amount => !m.amount.isZero
  | .quantity => m.quantity.isSome

/-- The movement without what stands in the place of a variable: movements that agree in this differ
in that place at most. -/
def clear (m : Movement) : MovementVariable → Movement
  | .bookingDate => { m with bookingDate := none }
  | .valutaDate => { m with valutaDate := none }
  | .counterparty => { m with counterparty := none }
  | .postingDescription => { m with postingDescription := none }
  | .subject => { m with subject := none }
  | .currencyCode => { m with currencyCode := none }
  | .amount => { m with amount := Decimal.zero }
  | .quantity => { m with quantity := none }

theorem clear_put (m : Movement) (v : MovementVariable) (x : v.Content) :
    (m.put v x).clear v = m.clear v := by
  cases v <;> rfl

/-- The movement after an assignment of something that was read. -/
def store (mode : Mode) (v : MovementVariable) (x : v.Content) (m : Movement) : Movement :=
  mode.merge (decide (v ≠ .counterparty) && m.isFull v) m (m.put v x)

theorem clear_store (mode : Mode) (v : MovementVariable) (x : v.Content) (m : Movement) :
    (m.store mode v x).clear v = m.clear v := by
  unfold store Mode.merge
  split
  · rfl
  · exact clear_put m v x

theorem store_of_full {v : MovementVariable} (hv : v ≠ .counterparty) (hfull : m.isFull v = true)
    (x : v.Content) : m.store .onlyWhenEmpty v x = m :=
  if_pos ⟨rfl, by rw [decide_eq_true hv, hfull]; rfl⟩

theorem store_of_ne {v : MovementVariable} (hv : v ≠ .counterparty) (x : v.Content) :
    m.store mode v x = mode.merge (m.isFull v) m (m.put v x) := by
  rw [store, decide_eq_true hv, Bool.true_and]

theorem store_counterparty (t : Text) : m.store mode .counterparty t = m.put .counterparty t :=
  if_neg (by simp)

/-- An assignment to a movement reads the value and stores what it says. -/
theorem assign_eq (m : Movement) (v : MovementVariable) :
    m.assign template v name value mode multiplier
      = (v.read template m name value multiplier).map (m.store mode v ·) := by
  by_cases hv : v = .counterparty
  · subst hv
    simp only [assign, MovementVariable.read, store_counterparty, bind, Except.bind, pure,
      Except.pure]
    cases template.correct (Text.strip (m.counterparty.getD [] ++ ' ' :: Text.strip value)) <;> rfl
  simp only [store_of_ne hv]
  cases v with
  | counterparty => exact absurd rfl hv
  | bookingDate => exact mode.read_merge _ _ ({ m with bookingDate := · }) some _
  | valutaDate => exact mode.read_merge _ _ ({ m with valutaDate := · }) some _
  | postingDescription => exact mode.read_merge _ _ ({ m with postingDescription := · }) some _
  | subject => exact mode.read_merge _ _ ({ m with subject := · }) some _
  | currencyCode => exact mode.read_merge _ _ ({ m with currencyCode := · }) some (.ok _)
  | quantity => exact mode.read_merge _ _ ({ m with quantity := · }) some _
  | amount =>
      have hmerge := mode.read_merge (!m.amount.isZero) m.amount ({ m with amount := · })
        (· * Decimal.ofInt multiplier) (template.readAmount name value)
      rw [MovementVariable.read]
      refine hmerge.trans ?_
      cases template.readAmount name value <;> rfl

end Movement

/-! ## In place -/

/-- A course of assignments to a target that is there all the time: what has been put in place stays
there when something fails afterwards. -/
abbrev InPlace (α : Type) : Type := ExceptT Fault (StateM Target) α

/-- What a course of assignments leaves of a target, and its result or the fault that ended it. -/
def InPlace.outcome {α : Type} (p : InPlace α) (target : Target) : Step Target α :=
  let (result, left) := StateT.run (m := Id) p.run target
  (left, result)

namespace InPlace

variable {α β : Type} {target : Target}

@[simp]
theorem outcome_pure (a : α) : outcome (pure a) target = (target, .ok a) := rfl

@[simp]
theorem outcome_throw (fault : Fault) :
    outcome (throw fault : InPlace α) target = (target, .error fault) := rfl

@[simp]
theorem outcome_get : outcome get target = (target, .ok target) := rfl

@[simp]
theorem outcome_modify (f : Target → Target) : outcome (modify f) target = (f target, .ok ()) := rfl

@[simp]
theorem outcome_lift (e : Except Fault α) : outcome (liftM e) target = (target, e) := by
  cases e <;> rfl

@[simp]
theorem outcome_bind (p : InPlace α) (f : α → InPlace β) :
    (p >>= f).outcome target
      = match p.outcome target with
        | (left, .ok a) => (f a).outcome left
        | (left, .error fault) => (left, .error fault) := by
  simp only [outcome, ExceptT.run_bind, StateT.run_bind]
  rcases StateT.run (m := Id) p.run target with ⟨_ | a, left⟩ <;> rfl

@[simp]
theorem outcome_map (p : InPlace α) (f : α → β) :
    (f <$> p).outcome target = ((p.outcome target).1, (p.outcome target).2.map f) := by
  simp only [outcome, ExceptT.run_map, StateT.run_map]
  rfl

end InPlace

namespace Target

/-- Puts what a value says for a header variable in place. -/
def assignHeaderInPlace (template : Template) (v : HeaderVariable) (name value : Text)
    (mode : Mode) : InPlace Unit := do
  let x ← v.read template name value
  modify fun target => { target with header := target.header.store mode v x }

/-- Puts what a value says for a movement variable in place. -/
def assignMovementInPlace (template : Template) (m : Movement) (v : MovementVariable)
    (name value : Text) (mode : Mode) (multiplier : Int) : InPlace Unit := do
  let x ← v.read template m name value multiplier
  modify fun target => { target with movement := target.movement.map (·.store mode v x) }

/-- Assigns a value, if there is one, to the variable of a name in place. The result tells whether
the name is a variable that has a place here. -/
def assignInPlace (template : Template) (name : Value) (value : Option Text) (mode : Mode)
    (multiplier : Int) : InPlace Bool := do
  match value with
  | none => return false
  | some value =>
    match name with
    | .text name =>
      match HeaderVariable.ofName? name with
      | some v =>
        assignHeaderInPlace template v name value mode
        return true
      | none =>
        match (← get).movement, MovementVariable.ofName? name with
        | some m, some v =>
          assignMovementInPlace template m v name value mode multiplier
          return true
        | _, _ => return false
    | .list _ => throw .wrongKind
    | .object _ => throw .wrongKind
    | _ => return false

/-- Where an assignment leaves a target that could not be changed in place: at what has been
returned, or where it was when nothing has. -/
def carried (target : Target) : Except Fault (Bool × Target) → Step Target Bool
  | .ok (known, after) => (after, .ok known)
  | .error fault => (target, .error fault)

/-- A target after an assignment to the variable of a name: the place of the variable is the only
one that may differ, and when the mode says so it does not differ either if it was full before. -/
inductive AssignedAt (mode : Mode) (name : Text) : Target → Target → Prop where
  | header {v : HeaderVariable} {h h' : Header} {m? : Option Movement}
      (hname : HeaderVariable.ofName? name = some v) (elsewhere : h'.clear v = h.clear v)
      (kept : mode = .onlyWhenEmpty → h.isFull v = true → h' = h) :
      AssignedAt mode name ⟨h, m?⟩ ⟨h', m?⟩
  | movement {v : MovementVariable} {h : Header} {m m' : Movement}
      (hnone : HeaderVariable.ofName? name = none)
      (hname : MovementVariable.ofName? name = some v) (elsewhere : m'.clear v = m.clear v)
      (kept : mode = .onlyWhenEmpty → v ≠ .counterparty → m.isFull v = true → m' = m) :
      AssignedAt mode name ⟨h, some m⟩ ⟨h, some m'⟩

theorem assignedAt_header {name : Text} {v : HeaderVariable}
    (hname : HeaderVariable.ofName? name = some v) (x : v.Content) (h : Header)
    (m? : Option Movement) : AssignedAt mode name ⟨h, m?⟩ ⟨h.store mode v x, m?⟩ :=
  .header hname (h.clear_store mode v x) fun hmode hfull => by
    subst hmode
    exact Header.store_of_full hfull x

theorem assignedAt_movement {name : Text} {v : MovementVariable}
    (hnone : HeaderVariable.ofName? name = none) (hname : MovementVariable.ofName? name = some v)
    (x : v.Content) (h : Header) (m : Movement) :
    AssignedAt mode name ⟨h, some m⟩ ⟨h, some (m.store mode v x)⟩ :=
  .movement hnone hname (m.clear_store mode v x) fun hmode hv hfull => by
    subst hmode
    exact Movement.store_of_full hv hfull x

/-! ### What is left -/

variable {n : Text} {h : Header} {m : Movement} {m? : Option Movement}

theorem outcome_of_header {v : HeaderVariable} (hname : HeaderVariable.ofName? n = some v) :
    (assignInPlace template (.text n) (some value) mode multiplier).outcome ⟨h, m?⟩
      = match v.read template n value with
        | .ok x => (⟨h.store mode v x, m?⟩, .ok true)
        | .error fault => (⟨h, m?⟩, .error fault) := by
  simp only [assignInPlace, hname, assignHeaderInPlace]
  cases v.read template n value <;> simp [Except.map]

theorem outcome_of_movement {v : MovementVariable} (hnone : HeaderVariable.ofName? n = none)
    (hname : MovementVariable.ofName? n = some v) :
    (assignInPlace template (.text n) (some value) mode multiplier).outcome ⟨h, some m⟩
      = match v.read template m n value multiplier with
        | .ok x => (⟨h, some (m.store mode v x)⟩, .ok true)
        | .error fault => (⟨h, some m⟩, .error fault) := by
  simp only [assignInPlace, hnone, hname, assignMovementInPlace]
  cases hread : v.read template m n value multiplier <;> simp [hread, Except.map]

theorem outcome_of_no_place (hnone : HeaderVariable.ofName? n = none)
    (hno : m? = none ∨ MovementVariable.ofName? n = none) :
    (assignInPlace template (.text n) (some value) mode multiplier).outcome ⟨h, m?⟩
      = (⟨h, m?⟩, .ok false) := by
  simp only [assignInPlace, hnone]
  rcases hno with rfl | hno
  · rfl
  · simp [hno, Except.map]

/-- An assignment in place leaves what `assignNamed` returns, or the target as it was when that
fails. -/
theorem outcome_assignInPlace (template : Template) (name : Value) (value : Text) (mode : Mode)
    (multiplier : Int) (target : Target) :
    (assignInPlace template name (some value) mode multiplier).outcome target
      = target.carried (target.assignNamed template name value mode multiplier) := by
  obtain ⟨h, m?⟩ := target
  cases name with
  | text n =>
      simp only [assignNamed, assign]
      cases hname : HeaderVariable.ofName? n with
      | some v =>
          rw [outcome_of_header hname]
          simp only [Header.assign_eq]
          cases v.read template n value <;> rfl
      | none =>
          cases m? with
          | none => rw [outcome_of_no_place hname (.inl rfl)]; rfl
          | some m =>
              cases hmovement : MovementVariable.ofName? n with
              | none => rw [outcome_of_no_place hname (.inr hmovement)]; rfl
              | some v =>
                  rw [outcome_of_movement hname hmovement]
                  simp only [Movement.assign_eq]
                  cases v.read template m n value multiplier <;> rfl
  | _ => rfl

/-- The three ways in which an assignment in place ends: it fails, it has nothing to do, or it has
assigned a value to a variable. -/
theorem outcome_cases (template : Template) (name : Value) (value? : Option Text) (mode : Mode)
    (multiplier : Int) (target : Target) :
    (∃ fault, (assignInPlace template name value? mode multiplier).outcome target
        = (target, .error fault))
      ∨ (assignInPlace template name value? mode multiplier).outcome target = (target, .ok false)
      ∨ ∃ n value after, name = .text n ∧ value? = some value ∧ AssignedAt mode n target after
        ∧ (assignInPlace template name value? mode multiplier).outcome target
          = (after, .ok true) := by
  obtain ⟨h, m?⟩ := target
  cases value? with
  | none => exact .inr (.inl rfl)
  | some value =>
  cases name with
  | text n =>
      cases hname : HeaderVariable.ofName? n with
      | some v =>
          rw [outcome_of_header hname]
          cases v.read template n value with
          | error fault => exact .inl ⟨fault, rfl⟩
          | ok x =>
              exact .inr (.inr ⟨n, value, _, rfl, rfl, assignedAt_header hname x h m?, rfl⟩)
      | none =>
          cases m? with
          | none => exact .inr (.inl (outcome_of_no_place hname (.inl rfl)))
          | some m =>
              cases hmovement : MovementVariable.ofName? n with
              | none => exact .inr (.inl (outcome_of_no_place hname (.inr hmovement)))
              | some v =>
                  rw [outcome_of_movement hname hmovement]
                  cases v.read template m n value multiplier with
                  | error fault => exact .inl ⟨fault, rfl⟩
                  | ok x =>
                      exact .inr (.inr ⟨n, value, _, rfl, rfl,
                        assignedAt_movement hname hmovement x h m, rfl⟩)
  | list _ | object _ => exact .inl ⟨.wrongKind, rfl⟩
  | _ => exact .inr (.inl rfl)

/-- Assigning in place is all or nothing, and changes one place at most: it leaves what
`assignNamed` returns; a fault leaves the target as it was, and so does a name that has no place
here or a value that is missing; and otherwise only the place of the variable may differ, which the
mode can keep from being changed when it is full. The counterparty is the exception to the mode, as
it grows. -/
theorem assignInPlace_local (template : Template) (name : Value) (value? : Option Text)
    (mode : Mode) (multiplier : Int) (target : Target) :
    let left := (assignInPlace template name value? mode multiplier).outcome target
    (∀ value, value? = some value →
        left = target.carried (target.assignNamed template name value mode multiplier))
      ∧ (∀ fault, left.2 = .error fault → left.1 = target)
      ∧ (left.2 = .ok false → left.1 = target)
      ∧ (left.2 = .ok true →
          ∃ n value, name = .text n ∧ value? = some value ∧ AssignedAt mode n target left.1) := by
  intro left
  refine ⟨fun value hvalue => ?_, ?_⟩
  · subst hvalue
    exact outcome_assignInPlace template name value mode multiplier target
  rcases outcome_cases template name value? mode multiplier target with
    ⟨fault, hleft⟩ | hleft | ⟨n, value, after, hname, hvalue, hafter, hleft⟩
  all_goals
    change left = _ at hleft
    rw [hleft]
  · exact ⟨fun _ _ => rfl, fun _ => rfl, nofun⟩
  · exact ⟨nofun, fun _ => rfl, nofun⟩
  · exact ⟨nofun, nofun, fun _ => ⟨n, value, hname, hvalue, hafter⟩⟩

/-- Values for places that are full, when only empty ones are to be filled: an amount that cannot be
read changes nothing, one that can be read is dropped, and the counterparty goes on. -/
theorem assignInPlace_local_filled :
    let template : Template := { name := .text [], source := .text [], sections := [] }
    let m : Movement := { amount := Decimal.ofInt 7, counterparty := some "Sparkasse".toList }
    let target : Target := ⟨{}, some m⟩
    let amount := Value.ofString "Amount"
    let given (name : Value) (value : String) :=
      (assignInPlace template name (some value.toList) .onlyWhenEmpty (-1)).outcome target
    (given amount "7,5,0").1 = target
      ∧ AssignedAt .onlyWhenEmpty "Amount".toList target (given amount "7,50").1
      ∧ (given amount "7,50").1 = target
      ∧ AssignedAt .onlyWhenEmpty "SourceName".toList target
          (given (.ofString "SourceName") " Köln ").1
      ∧ ((given (.ofString "SourceName") " Köln ").1.movement.bind (·.counterparty))
          = some "Sparkasse Köln".toList := by
  intro template m target amount given
  obtain ⟨-, hfault, -, -⟩ :=
    assignInPlace_local template amount (some "7,5,0".toList) .onlyWhenEmpty (-1) target
  obtain ⟨-, -, -, hamount⟩ :=
    assignInPlace_local template amount (some "7,50".toList) .onlyWhenEmpty (-1) target
  obtain ⟨-, -, -, hsource⟩ := assignInPlace_local template (.ofString "SourceName")
    (some " Köln ".toList) .onlyWhenEmpty (-1) target
  obtain ⟨n, -, hn, -, hamount⟩ := hamount rfl
  obtain ⟨k, -, hk, -, hsource⟩ := hsource rfl
  have hn : "Amount".toList = n := Value.text.inj hn
  have hk : "SourceName".toList = k := Value.text.inj hk
  subst hn hk
  exact ⟨hfault (.unreadable "Amount".toList (some "7,5,0".toList) none) rfl, hamount, rfl, hsource,
    rfl⟩

end Target

end BankStatement
