import Mathlib.Logic.Relation
import BankStatement.Proofs.Session.Visit
import BankStatement.Template.Build

/-!
# How a held movement grows

Continuation lines change the movement that is held. They do so through additional rules only, and a
rule only assigns variables, so whatever no assignment touches is the same from the first line of a
movement to the last: `Movement.assign_marks` names the two marks, and `Rule.apply_preserves`
carries any such fact through all groups of a match.

`Grown` is the growth of a movement over any number of lines, and `foldRules_continued` is the one
place where it comes from: all that the additional rules of a line can do to a session is to change
the held movement by `Grown`, to let it go, or to fail. Statements about runs therefore name growth
by this relation and never by the lines that caused it.

Growth is the reflexive and transitive closure of `GrowsBy`, one rule on one line. It says which
rules may take part, the additional rules of the template's tables, and under which mode they
assign; `Grown.preserves` needs the first, for a rule that names no date cannot change one. A rule
that fails takes no part in growth. What it had assigned before the fault stays in the held
movement, but the run ends there, and all that later proofs ask of that movement is that it is no
error movement.
-/

namespace BankStatement

/-! ## What assignments leave alone -/

/-- A name that is looked up among known names is one of them. -/
theorem known_of_findSome? {α : Type} {table : List (String × α)} {name : Text} {v : α}
    (h : (table.findSome? fun (known, v) => if known.toList = name then some v else none)
      = some v) :
    ∃ known, (known, v) ∈ table ∧ name = known.toList := by
  obtain ⟨⟨known, v'⟩, hmem, hv⟩ := List.exists_of_findSome?_eq_some h
  simp only at hv
  split at hv
  next hname =>
    cases hv
    exact ⟨known, hmem, hname.symm⟩
  next => cases hv

/-- No variable stands for one of the marks of a movement. -/
theorem Movement.assign_marks {template : Template} {m m' : Movement} {v : MovementVariable}
    {name value : Text} {mode : Mode} {multiplier : Int}
    (h : m.assign template v name value mode multiplier = .ok m') :
    m'.isPreview = m.isPreview ∧ m'.isError = m.isError := by
  cases v <;> simp only [Movement.assign, bind, Except.bind, pure, Except.pure] at h
  case currencyCode => cases h; exact ⟨rfl, rfl⟩
  all_goals
    split at h
    · cases h
    · cases h; exact ⟨rfl, rfl⟩

theorem Movement.assign_bookingDate {template : Template} {m m' : Movement} {v : MovementVariable}
    {name value : Text} {mode : Mode} {multiplier : Int} (hv : v ≠ .bookingDate)
    (h : m.assign template v name value mode multiplier = .ok m') :
    m'.bookingDate = m.bookingDate := by
  cases v <;> simp only [Movement.assign, bind, Except.bind, pure, Except.pure] at h
  case bookingDate => exact absurd rfl hv
  case currencyCode => cases h; rfl
  all_goals
    split at h
    · cases h
    · cases h; rfl

/-- An assignment to a target with a movement keeps a movement there, changed or not. -/
theorem Target.assign_movement {template : Template} {name value : Text} {mode : Mode}
    {multiplier : Int} {target target' : Target} {known : Bool} {m : Movement}
    (hm : target.movement = some m)
    (h : target.assign template name value mode multiplier = .ok (known, target')) :
    target'.movement = some m ∨ ∃ v m', MovementVariable.ofName? name = some v
      ∧ m.assign template v name value mode multiplier = .ok m' ∧ target'.movement = some m' := by
  unfold Target.assign at h
  split at h
  · simp only [bind, Except.bind, pure, Except.pure] at h
    split at h
    · cases h
    · cases h; exact .inl hm
  · split at h
    next m₀ v hm₀ hv =>
      obtain rfl := Option.some.inj (hm₀.symm.trans hm)
      simp only [bind, Except.bind, pure, Except.pure] at h
      split at h
      · cases h
      next m' hm' => cases h; exact .inr ⟨v, m', hv, hm', rfl⟩
    · cases h; exact .inl hm

namespace Rule

variable {template : Template} {line : Text} {mode : Mode} {target target' : Target}
  {m : Movement} {P : Movement → Prop}

theorem assignGroups_preserves {multiplier : Int} {groups : List (Text × Option Text)}
    {res : Except Fault Unit}
    (hP : ∀ group ∈ groups, ∀ v, MovementVariable.ofName? group.1 = some v → ∀ m m' value, P m →
      m.assign template v group.1 value mode multiplier = .ok m' → P m')
    (hm : target.movement = some m) (h₀ : P m)
    (h : assignGroups template mode multiplier groups target = (target', res)) :
    ∃ m', target'.movement = some m' ∧ P m' := by
  induction groups generalizing target m with
  | nil => cases h; exact ⟨m, hm, h₀⟩
  | cons group groups ih =>
      obtain ⟨name, value⟩ := group
      have hrest {target m} := @ih target m fun g hg => hP g (List.mem_cons_of_mem _ hg)
      unfold assignGroups at h
      split at h
      · exact hrest hm h₀ h
      · exact hrest hm h₀ h
      · split at h
        · cases h; exact ⟨m, hm, h₀⟩
        next value _ target₁ hassign =>
          rcases Target.assign_movement hm hassign with hm₁ | ⟨v, m₁, hv, hm', hm₁⟩
          · exact hrest hm₁ h₀ h
          · exact hrest hm₁ (hP (name, _) (List.mem_cons_self ..) v hv m m₁ _ h₀ hm') h

/-- What holds of a movement and survives the assignment to every variable that the rule names still
holds when the rule has been tried, also when it failed halfway: the groups are assigned one after
the other, and those in front of the failing one have been assigned. -/
theorem apply_preserves {r : Rule} {res : Except Fault Bool}
    (hP : ∀ name ∈ r.pattern.names.map (·.1), ∀ v, MovementVariable.ofName? name = some v →
      ∀ m m' value, P m → m.assign template v name value mode r.multiplier = .ok m' → P m')
    (hm : target.movement = some m) (h₀ : P m)
    (h : r.apply template line mode target = (target', res)) :
    ∃ m', target'.movement = some m' ∧ P m' := by
  unfold apply at h
  split at h
  · cases h; exact ⟨m, hm, h₀⟩
  next found _ =>
    have hgroups : ∀ group ∈ r.pattern.namedGroups found, group.1 ∈ r.pattern.names.map (·.1) := by
      intro group hg
      obtain ⟨pair, hpair, rfl⟩ := List.mem_map.mp hg
      exact List.mem_map.mpr ⟨pair, hpair, rfl⟩
    split at h <;>
    · cases h
      exact assignGroups_preserves (fun g hg => hP g.1 (hgroups g hg)) hm h₀ ‹_›

/-- A rule whose pattern is not found assigns nothing. -/
theorem target_of_apply_false {r : Rule}
    (h : r.apply template line mode target = (target', .ok false)) : target' = target := by
  unfold apply at h
  split at h
  · cases h; rfl
  · split at h <;> cases h

end Rule

/-! ## Growth -/

/-- The rules that continue movements: the additional rules of the tables, under a policy. -/
def Template.continuing (policy : Option Continuation) (template : Template) : List Rule :=
  if policy.isSome then
    (template.sections.filter (·.kind = .table)).flatMap (·.rulesOf .additional)
  else []

theorem Template.mem_continuing {template : Template} {c : Continuation} {sec : Section} {r : Rule}
    (hsec : sec ∈ template.sections) (hkind : sec.kind = .table)
    (hr : r ∈ sec.rulesOf .additional) : r ∈ template.continuing (some c) := by
  simp only [Template.continuing, Option.isSome_some, if_true]
  exact List.mem_flatMap.mpr ⟨sec, List.mem_filter.mpr ⟨hsec, by simpa using hkind⟩, hr⟩

/-- Some line makes a rule that continues movements turn one movement into the other. -/
def GrowsBy (policy : Option Continuation) (template : Template) (m m' : Movement) : Prop :=
  ∃ r ∈ template.continuing policy, ∃ line header target,
    r.apply template line .always ⟨header, some m⟩ = (target, .ok true)
      ∧ target.movement = some m'

/-- One movement is the other one after any number of continuation lines. -/
def Grown (policy : Option Continuation) (template : Template) : Movement → Movement → Prop :=
  Relation.ReflTransGen (GrowsBy policy template)

section

variable {policy : Option Continuation} {template : Template} {m m' m₁ m₂ m₃ : Movement}

theorem Grown.refl (m : Movement) : Grown policy template m m :=
  Relation.ReflTransGen.refl

theorem Grown.trans (h : Grown policy template m₁ m₂) (h' : Grown policy template m₂ m₃) :
    Grown policy template m₁ m₃ :=
  Relation.ReflTransGen.trans h h'

/-- Growth keeps what survives every assignment that a continuing rule can make. The hypothesis asks
only for the variables that occur as group names in such a rule, so a fact about the booking date
follows for every template whose additional rules do not name it. -/
theorem Grown.preserves {P : Movement → Prop}
    (hP : ∀ r ∈ template.continuing policy, ∀ name ∈ r.pattern.names.map (·.1),
      ∀ v, MovementVariable.ofName? name = some v → ∀ m m' value, P m →
        m.assign template v name value .always r.multiplier = .ok m' → P m')
    (h : Grown policy template m m') (h₀ : P m) : P m' := by
  induction h with
  | refl => exact h₀
  | @tail m₁ m₂ _ hstep ih =>
      obtain ⟨r, hr, line, header, target, happly, htarget⟩ := hstep
      obtain ⟨m', hm', hPm'⟩ := Rule.apply_preserves (hP r hr) rfl ih happly
      obtain rfl := Option.some.inj (hm'.symm.trans htarget)
      exact hPm'

/-- A movement keeps its marks while it grows. -/
theorem Grown.marks (h : Grown policy template m m') :
    m'.isPreview = m.isPreview ∧ m'.isError = m.isError := by
  refine Grown.preserves (P := fun n => n.isPreview = m.isPreview ∧ n.isError = m.isError)
    (fun _ _ _ _ _ _ n n' _ hn hassign => ?_) h ⟨rfl, rfl⟩
  obtain ⟨hpreview, herror⟩ := Movement.assign_marks hassign
  exact ⟨hpreview.trans hn.1, herror.trans hn.2⟩

end

namespace Session

/-! ## The additional rules of a line -/

/-- What the additional rules of a line can do to a session that holds the movement `h`. -/
inductive Continued (policy : Option Continuation) (s : Session) (h : Movement) :
    Session → Except Fault (Option Movement) → Prop where
  /-- A rule fails, and what it had assigned before stays. -/
  | fault {header : Header} {m : Movement} {n : Nat} {fault : Fault} (hm : m.isError = h.isError) :
      Continued policy s h { s with header, held := some m, foldCount := n } (.error fault)
  /-- The movement is still held. -/
  | held {header : Header} {m : Movement} {n : Nat} (hm : Grown policy s.template h m) :
      Continued policy s h { s with header, held := some m, foldCount := n } (.ok none)
  /-- A rule has continued the movement as often as it may, and the movement is given out. -/
  | released {header : Header} {m : Movement} (hm : Grown policy s.template h m) :
      Continued policy s h { s with header, held := none, foldCount := 0 } (.ok (some m))

/-- Under the additional rules of a line the held movement grows, is let go, or a conversion fails.
The induction is over the rules that are left. It carries the movement held at the start through
`Grown` and lets the one held now vary, since each rule meets what the rules before it have made. -/
theorem foldRules_continued {policy : Option Continuation} {line : Text} {rules : List Rule}
    {s : Session} {h : Movement} (hrules : ∀ r ∈ rules, r ∈ s.template.continuing policy)
    (hh : s.held = some h) :
    Continued policy s h (foldRules line rules s).1 (foldRules line rules s).2 := by
  -- the movement held at the start is fixed by `hgrown`, the one held now changes with every rule
  suffices hgen : ∀ rules, (∀ r ∈ rules, r ∈ s.template.continuing policy) → ∀ header m n,
      Grown policy s.template h m →
      Continued policy s h
        (foldRules line rules { s with header, held := some m, foldCount := n }).1
        (foldRules line rules { s with header, held := some m, foldCount := n }).2 by
    have hs : { s with header := s.header, held := some h, foldCount := s.foldCount } = s := by
      rw [← hh]
    have hstart := hgen rules hrules s.header h s.foldCount (Grown.refl h)
    rwa [hs] at hstart
  clear hrules rules
  intro rules
  induction rules with
  | nil => exact fun _ header m n hgrown => .held hgrown
  | cons r rules ih =>
      intro hrules header m n hgrown
      have hrest := ih fun r' hr' => hrules r' (List.mem_cons_of_mem _ hr')
      unfold foldRules
      split
      next target fault happly =>
        obtain ⟨m', hm', herror⟩ := Rule.apply_preserves (P := fun m' => m'.isError = m.isError)
          (fun _ _ _ _ _ _ _ hn hassign => (Movement.assign_marks hassign).2.trans hn)
          rfl rfl happly
        rw [hm']
        exact .fault (herror.trans hgrown.marks.2)
      next target happly =>
        obtain rfl := Rule.target_of_apply_false happly
        exact hrest header m n hgrown
      next target happly =>
        obtain ⟨m', hm', -⟩ := Rule.apply_preserves (P := fun _ => True)
          (fun _ _ _ _ _ _ _ _ _ => trivial) rfl trivial happly
        have hgrown' : Grown policy s.template h m' :=
          hgrown.tail ⟨r, hrules r (List.mem_cons_self ..), line, header, target, happly, hm'⟩
        simp only [hm', release]
        split
        · exact .released hgrown'
        · exact hrest target.header m' (n + 1) hgrown'

end Session

/-! ## A small layout -/

/-- A layout in which movements grow: rows begin with a date, and one rule continues them. -/
def Template.dated (stopOnError : Bool) (additional : String) : Template where
  name := .ofString "Dated"
  source := .ofString "Text"
  sections := [{
    name := .ofString "Rows"
    kind := .table
    stopOnError
    columns := [.primary "^(?P<PostingDate>\\d\\d\\.\\d\\d\\.\\d\x7b4\x7d) " 1,
      .additional additional none] }]

end BankStatement
