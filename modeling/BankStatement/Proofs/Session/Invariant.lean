import BankStatement.Proofs.Session.Growth
import BankStatement.Proofs.Session.Passage

/-!
# The invariant of a session

`Tidy` holds of a fresh session and is kept by every line, also by one that ends in a fault, so it
holds of every session that can be reached (`tidy_feed`, `tidy_finish`). What the proofs about runs
need most of it is that a movement is held only inside a table and only under a continuation policy:
outside of tables `release` has nothing to let go, and without a policy nothing is ever held back.

The step is `row_done`: with the invariant, a row does one of eight things to what is held, and
`RowDone` names them. It is coarser than `Folded` and `Looked`, from which it is made. There the
cases are the branches of the program; here they are what matters to the movements, namely what is
held before and behind, what is given out, and what begins. So a conservation law splits on eight
cases instead of on the product of two case analyses.

`begun` is the movement that a row begins, read off the row and the session before it, whatever
becomes of that movement later. It looks at the line alone and at whether something is held, which
is why it can be counted before the run is known to succeed.
-/

namespace BankStatement

/-- Whether the lines of a section of some kind are read in a stage. -/
def Stage.Fits : Stage → SectionKind → Prop
  | .between, _ => True
  | .ignoring, kind => kind = .ignore
  | .keyValue, kind => kind = .keyValue
  | .tableHeader, kind => kind = .table
  | .table, kind => kind = .table
  | .dynamicTable, kind => kind = .dynamicTable

namespace Session

variable {policy : Option Continuation} {sec : Section} {line : Text} {s t : Session}

/-- What holds of a session however it has been used. -/
structure Tidy (policy : Option Continuation) (s : Session) : Prop where
  held_table : ∀ m, s.held = some m → s.stage = .table ∧ policy.isSome = true
  held_readable : ∀ m, s.held = some m → m.isError = false
  foldCount_eq : s.held = none → s.foldCount = 0
  current_mem : ∀ sec, s.current = some sec → sec ∈ s.template.sections
  stage_fits : ∀ sec, s.current = some sec → s.stage.Fits sec.kind

theorem tidy_start (policy : Option Continuation) (template : Template) (today : Date) :
    Tidy policy (start template today) where
  held_table := by simp [start]
  held_readable := by simp [start]
  foldCount_eq _ := rfl
  current_mem := by simp [start]
  stage_fits := by simp [start]

/-- Outside tables nothing is held. -/
theorem Tidy.held_eq_none (hs : Tidy policy s) (hst : s.stage ≠ .table) : s.held = none := by
  cases hh : s.held with
  | none => rfl
  | some m => exact absurd (hs.held_table m hh).1 hst

/-- Nothing is held without a policy. -/
theorem Tidy.held_eq_none_of_policy (hs : Tidy none s) : s.held = none := by
  cases hh : s.held with
  | none => rfl
  | some m => exact absurd (hs.held_table m hh).2 (by simp)

/-! ## Entering and leaving -/

theorem Tidy.lineNo (hs : Tidy policy s) (n : Nat) : Tidy policy { s with lineNo := n } :=
  ⟨hs.held_table, hs.held_readable, hs.foldCount_eq, hs.current_mem, hs.stage_fits⟩

theorem Tidy.header (hs : Tidy policy s) (header : Header) : Tidy policy { s with header } :=
  ⟨hs.held_table, hs.held_readable, hs.foldCount_eq, hs.current_mem, hs.stage_fits⟩

theorem Tidy.seen (hs : Tidy policy s) (seen : List MovementKey) : Tidy policy { s with seen } :=
  ⟨hs.held_table, hs.held_readable, hs.foldCount_eq, hs.current_mem, hs.stage_fits⟩

theorem Tidy.leave (hs : Tidy policy s) (hh : s.held = none) : Tidy policy s.leave where
  held_table m hm := by simp [Session.leave, hh] at hm
  held_readable := hs.held_readable
  foldCount_eq := hs.foldCount_eq
  current_mem := hs.current_mem
  stage_fits _ _ := trivial

theorem fits_firstStage (sec : Section) : (firstStage sec).Fits sec.kind := by
  unfold firstStage
  cases sec.kind with
  | table => cases sec.containsHeader <;> rfl
  | _ => rfl

theorem Tidy.enter (hs : Tidy policy s) (hst : s.stage = .between)
    (hsec : sec ∈ s.template.sections) : Tidy policy (s.enter sec) where
  held_table m hm := by
    have hh := hs.held_eq_none (by simp [hst])
    simp [Session.enter, hh] at hm
  held_readable := hs.held_readable
  foldCount_eq := hs.foldCount_eq
  current_mem sec' hsec' := by
    obtain rfl := Option.some.inj hsec'
    exact hsec
  stage_fits sec' hsec' := by
    obtain rfl := Option.some.inj hsec'
    exact fits_firstStage sec

theorem Tidy.exhaust (hs : Tidy policy s) (hst : s.stage = .between) : Tidy policy s.exhaust where
  held_table m hm := by
    have hh := hs.held_eq_none (by simp [hst])
    simp [Session.exhaust, hh] at hm
  held_readable := hs.held_readable
  foldCount_eq := hs.foldCount_eq
  current_mem _ hsec := by simp [Session.exhaust] at hsec
  stage_fits _ hsec := by simp [Session.exhaust] at hsec

theorem mem_sections_of_upcoming {rest : List Section} (hup : s.upcoming = sec :: rest) :
    sec ∈ s.template.sections := by
  have hsec : sec ∈ s.upcoming := by
    rw [hup]
    exact List.mem_cons_self ..
  exact List.mem_of_mem_drop hsec

/-! ## Giving out -/

def dropsDuplicates (s : Session) : Bool := (s.current.map (·.removeDuplicates)).getD false

/-- Giving out a movement changes the keys that have been seen, and gives out all there is unless
the section drops duplicates. -/
theorem emit?_eq {m? : Option Movement} {given : List Movement} (h : s.emit? m? = (t, given)) :
    (∃ seen, t = { s with seen }) ∧ given.Sublist m?.toList
      ∧ (s.dropsDuplicates = false → given = m?.toList) := by
  unfold emit? emit at h
  split at h
  next m =>
    split at h
    next hdrop =>
      have hno : s.dropsDuplicates ≠ false := by simpa [dropsDuplicates] using hdrop
      split at h <;> cases h
      · exact ⟨⟨s.seen, rfl⟩, by simp, fun hd => absurd hd hno⟩
      · exact ⟨⟨_, rfl⟩, by simp, fun hd => absurd hd hno⟩
    next => cases h; exact ⟨⟨s.seen, rfl⟩, by simp, fun _ => by simp⟩
  next => cases h; exact ⟨⟨s.seen, rfl⟩, by simp, fun _ => by simp⟩

/-- What a table lets go of at its end is what is held, also without a policy. -/
theorem release_of_tidy (hs : Tidy policy s) :
    (if policy.isSome then s.release else (s, none))
      = ({ s with held := none, foldCount := 0 }, s.held) := by
  cases policy with
  | none =>
      have hh := hs.held_eq_none_of_policy
      have hn := hs.foldCount_eq hh
      simp only [Option.isSome_none, Bool.false_eq_true, if_false, ← hh]
      rw [← hn]
  | some c => rfl

/-- The end of a table gives out what is held, and nothing is held any more. -/
theorem endTable_eq {given : List Movement} (hs : Tidy policy s)
    (h : s.endTable policy = (t, given)) :
    (∃ seen, t = { s with held := none, foldCount := 0, stage := .between, seen })
      ∧ given.Sublist s.held.toList ∧ (s.dropsDuplicates = false → given = s.held.toList) := by
  simp only [endTable, release_of_tidy hs] at h
  cases hemit : emit? { s with held := none, foldCount := 0 } s.held with
  | mk u own =>
      obtain ⟨⟨seen, rfl⟩, hsub, hall⟩ := emit?_eq hemit
      rw [hemit] at h
      cases h
      exact ⟨⟨seen, rfl⟩, hsub, hall⟩

/-! ## Rows -/

/-- The movement that a line begins as a row of the current section: what it says by itself, if that
can be read and, while a movement is held, is complete. -/
def begun (policy : Option Continuation) (sec : Section) (line : Text) (s : Session) :
    Option Movement :=
  if s.isRow sec line then
    match s.parse policy sec line with
    | (_, .ok (some m)) =>
      if m.isError || s.held.isSome && !policy.all (·.isComplete (some m)) then none else some m
    | _ => none
  else none

theorem begun_of_not_row (hrow : s.isRow sec line = false) : s.begun policy sec line = none := by
  simp [begun, hrow]

/-- What a row can do. -/
inductive RowDone (policy : Option Continuation) (sec : Section) (line : Text) (s : Session) :
    Session → Except Fault (Option Movement) → Prop where
  /-- It cannot be read. -/
  | fault {header : Header} {fault : Fault} :
      RowDone policy sec line s { s with header } (.error fault)
  /-- It cannot be folded onto what is held, which may have been changed by then. -/
  | foldFault {header : Header} {h m : Movement} {n : Nat} {fault : Fault} (hh : s.held = some h)
      (hm : m.isError = h.isError) :
      RowDone policy sec line s { s with header, held := some m, foldCount := n } (.error fault)
  /-- It says nothing, or is ignored. -/
  | nothing {header : Header} (hb : s.begun policy sec line = none) :
      RowDone policy sec line s { s with header } (.ok none)
  /-- It makes the held movement grow. -/
  | grown {header : Header} {h m : Movement} {n : Nat} (hb : s.begun policy sec line = none)
      (hh : s.held = some h) (hm : Grown policy s.template h m) :
      RowDone policy sec line s { s with header, held := some m, foldCount := n } (.ok none)
  /-- It makes the held movement grow for the last time, and the movement is given out. -/
  | released {header : Header} {h m : Movement} (hb : s.begun policy sec line = none)
      (hh : s.held = some h) (hm : Grown policy s.template h m) :
      RowDone policy sec line s { s with header, held := none, foldCount := 0 } (.ok (some m))
  /-- It ends the table. -/
  | unreadable {header : Header} {m : Movement} (hb : s.begun policy sec line = none)
      (hm : m.isError = true) : RowDone policy sec line s { s with header } (.ok (some m))
  /-- It begins a movement that is given out at once. -/
  | single {header : Header} {m : Movement} (hb : s.begun policy sec line = some m)
      (hh : s.held = none) (hm : m.isError = false) :
      RowDone policy sec line s { s with header } (.ok (some m))
  /-- It begins a movement that is held from now on, in place of what was held. -/
  | held {header : Header} {m : Movement} (hb : s.begun policy sec line = some m)
      (hst : s.stage = .table) (hpol : policy.isSome = true) (hm : m.isError = false) :
      RowDone policy sec line s { s with header, held := some m, foldCount := 0 } (.ok s.held)

/-- A line that continues what is held begins nothing. -/
theorem begun_of_continues {c : Continuation} {header : Header} {m? : Option Movement}
    {h : Movement} (hh : s.held = some h) (hp : s.parse (some c) sec line = (header, .ok m?))
    (hm : c.Continues m?) : s.begun (some c) sec line = none := by
  unfold begun
  split
  · rw [hp]
    cases m? with
    | none => rfl
    | some m => simp [hh, (hm m rfl).2]
  · rfl

theorem foldLine_done {c : Continuation} {r : Except Fault (Option Movement)}
    (hs : Tidy (some c) s) (hcur : s.current = some sec) (hst : s.stage = .table)
    (hrow : s.isRow sec line = true) (hf : s.foldLine c sec line = (t, r)) :
    RowDone (some c) sec line s t r := by
  cases foldLine_folded hf with
  | fault => exact .fault
  | @returned header m? hh hp hm =>
      cases m? with
      | none => exact .nothing (by simp [begun, hrow, hp])
      | some m =>
          cases herror : m.isError with
          | true => exact .unreadable (by simp [begun, hrow, hp, herror]) herror
          | false => exact .single (by simp [begun, hrow, hp, herror, hh]) hh herror
  | opened hh hp hm =>
      rw [← hh]
      exact .held (by simp [begun, hrow, hp, hm, hh]) hst rfl hm
  | unreadable hh hp hm => exact .unreadable (by simp [begun, hrow, hp, hm]) hm
  | next hh hp hm hc =>
      rw [← hh]
      exact .held (by simp [begun, hrow, hp, hm, hc]) hst rfl hm
  | ignored hh hp hm => exact .nothing (begun_of_continues hh hp hm)
  | @continued header m? h hh hp hm _ _ _ hfold =>
      have hb := begun_of_continues hh hp hm
      have hkind : sec.kind = .table := by
        have hfits := hs.stage_fits sec hcur
        rwa [hst] at hfits
      have hcont : Continued (some c) { s with header } h
          (foldRules line (sec.rulesOf .additional) { s with header }).1
          (foldRules line (sec.rulesOf .additional) { s with header }).2 :=
        foldRules_continued
          (fun _ hr => Template.mem_continuing (hs.current_mem sec hcur) hkind hr) hh
      rw [hfold] at hcont
      cases hcont with
      | fault hm' => exact .foldFault hh hm'
      | held hgrown => exact .grown hb hh hgrown
      | released hgrown => exact .released hb hh hgrown

/-- A row that is read by itself, nothing being held, gives out what it begins. -/
theorem single_done {header : Header} {m : Movement} (hh : s.held = none)
    (hrow : s.isRow sec line = true) (hp : s.parse policy sec line = (header, .ok (some m)))
    (hm : m.isError = false) : RowDone policy sec line s { s with header } (.ok (some m)) :=
  .single (by simp [begun, hrow, hp, hm, hh]) hh hm

theorem dynamicLine_done {r : Except Fault (Option Movement)} (hs : Tidy policy s)
    (hst : s.stage ≠ .table) (hrow : s.isRow sec line = true)
    (h : s.dynamicLine policy sec line = (t, r)) : RowDone policy sec line s t r := by
  have hlength : ¬(sec.recordLength ≠ 0 ∧ Int.ofNat line.length ≠ sec.recordLength) := by
    unfold isRow at hrow
    split at hrow
    · contradiction
    · grind
    · cases hrow
  unfold dynamicLine at h
  rw [if_neg hlength] at h
  split at h
  next hp =>
    cases h
    split
    · exact .nothing (by simp [begun, hrow, parse, hp])
    · exact .fault
  next hp => cases h; exact .nothing (by simp [begun, hrow, parse, hp])
  next m hp =>
    cases h
    cases hm : m.isError with
    | true => exact .nothing (by simp [begun, hrow, parse, hp, hm])
    | false => exact single_done (hs.held_eq_none hst) hrow hp hm

/-- With the invariant a row does one of eight things. The invariant is needed for rows of dynamic
tables and for those read without a policy: nothing is held there, so what such a row says by itself
is what it begins. -/
theorem row_done {r : Except Fault (Option Movement)} (hs : Tidy policy s)
    (hcur : s.current = some sec) (hrow : s.isRow sec line = true)
    (h : s.row policy sec line = (t, r)) : RowDone policy sec line s t r := by
  unfold row at h
  split at h
  next hst =>
    unfold tableLine at h
    split at h
    next c => exact foldLine_done hs hcur hst hrow h
    next =>
      cases hp : s.parse none sec line with
      | mk header result =>
          rw [parse, Option.isNone_none] at hp
          rw [hp] at h
          rcases result with fault | _ | m
          · cases h; exact .fault
          · cases h; exact .nothing (by simp [begun, hrow, parse, hp])
          · cases h
            cases hm : m.isError with
            | true => exact .unreadable (by simp [begun, hrow, parse, hp, hm]) hm
            | false => exact single_done hs.held_eq_none_of_policy hrow hp hm
  next hst => exact dynamicLine_done hs hst hrow h

/-! ## Every look keeps the invariant -/

theorem tidy_row {r : Except Fault (Option Movement)} (hs : Tidy policy s)
    (hcur : s.current = some sec) (hrow : s.isRow sec line = true)
    (h : s.row policy sec line = (t, r)) : Tidy policy t := by
  have hhold : ∀ {header : Header} {m : Movement} {n : Nat}, s.stage = .table →
      policy.isSome = true → m.isError = false →
      Tidy policy { s with header, held := some m, foldCount := n } := fun hst hpol hm =>
    { held_table := fun _ _ => ⟨hst, hpol⟩
      held_readable := fun _ h' => Option.some.inj h' ▸ hm
      foldCount_eq := fun h' => by simp at h'
      current_mem := hs.current_mem
      stage_fits := hs.stage_fits }
  cases row_done hs hcur hrow h with
  | fault | nothing | unreadable | single => exact hs.header _
  | foldFault hh hm =>
      obtain ⟨hst, hpol⟩ := hs.held_table _ hh
      exact hhold hst hpol (hm.trans (hs.held_readable _ hh))
  | grown _ hh hm =>
      obtain ⟨hst, hpol⟩ := hs.held_table _ hh
      exact hhold hst hpol (hm.marks.2.trans (hs.held_readable _ hh))
  | released =>
      exact {
        held_table := fun _ h' => by simp at h'
        held_readable := fun _ h' => by simp at h'
        foldCount_eq := fun _ => rfl
        current_mem := hs.current_mem
        stage_fits := hs.stage_fits }
  | held _ hst hpol hm => exact hhold hst hpol hm

theorem tidy_endTable {given : List Movement} (hs : Tidy policy s)
    (h : s.endTable policy = (t, given)) : Tidy policy t ∧ t.held = none := by
  obtain ⟨⟨seen, rfl⟩, -, -⟩ := endTable_eq hs h
  refine ⟨?_, rfl⟩
  exact {
    held_table := fun _ h' => by simp at h'
    held_readable := fun _ h' => by simp at h'
    foldCount_eq := fun _ => rfl
    current_mem := hs.current_mem
    stage_fits := fun _ _ => trivial }

/-- Every look keeps the invariant, also one that ends in a fault: what had been assigned before the
fault stays in the header, and the header is no part of the invariant. -/
theorem tidy_visit {r : Except Fault Visit} (hs : Tidy policy s) (hcur : s.current = some sec)
    (h : s.visit policy sec line = (t, r)) : Tidy policy t := by
  cases visit_looked h with
  | nowhere | passed | skipped => exact hs
  | left _ hst => exact hs.leave (hs.held_eq_none (by rcases hst with h | h <;> simp [h]))
  | labels | labelFault => exact hs.header _
  | headings hst =>
      have hh := hs.held_eq_none (by simp [hst])
      exact {
        held_table := fun _ h' => by simp [hh] at h'
        held_readable := hs.held_readable
        foldCount_eq := hs.foldCount_eq
        current_mem := hs.current_mem
        stage_fits := fun sec hsec => by
          have hfits := hs.stage_fits sec hsec
          rwa [hst] at hfits }
  | closed _ _ _ he => exact (tidy_endTable hs he).1
  | rowFault hrow hr => exact tidy_row hs hcur hrow hr
  | unreadable _ hrow hr _ he => exact (tidy_endTable (tidy_row hs hcur hrow hr) he).1
  | read hrow hr _ he =>
      obtain ⟨⟨seen, rfl⟩, -, -⟩ := emit?_eq he
      exact (tidy_row hs hcur hrow hr).seen seen

theorem Passage.tidy {looks : List (Section × Session)} {r : Except Fault (List Movement)}
    (hp : Passage policy line s looks t r) (hs : Tidy policy s) : Tidy policy t := by
  induction hp with
  | @enter s _ sec _ _ _ hst hup _ ih =>
      exact ih (hs.enter hst (mem_sections_of_upcoming hup))
  | exhaust hst => exact hs.exhaust hst
  | idle => exact hs
  | fault _ hcur hv => exact tidy_visit hs hcur hv
  | usedUp _ hcur hv => exact tidy_visit hs hcur hv
  | handedOn _ hcur hv _ ih => exact ih (tidy_visit hs hcur hv)

/-- Every section that looks at a line is the current one of a tidy session. -/
theorem Passage.tidy_look {looks : List (Section × Session)} {r : Except Fault (List Movement)}
    (hp : Passage policy line s looks t r) (hs : Tidy policy s) :
    ∀ look ∈ looks, Tidy policy look.2 ∧ look.2.current = some look.1
      ∧ look.2.template = s.template ∧ look.2.today = s.today := by
  induction hp with
  | @enter s _ sec _ _ _ hst hup _ ih =>
      exact ih (hs.enter hst (mem_sections_of_upcoming hup))
  | exhaust | idle => simp
  | fault _ hcur | usedUp _ hcur => simpa using ⟨hs, hcur⟩
  | handedOn _ hcur hv _ ih =>
      intro look hlook
      rcases List.mem_cons.mp hlook with rfl | hlook
      · exact ⟨hs, hcur, rfl, rfl⟩
      · obtain ⟨htidy, hcur', htemplate, htoday⟩ := ih (tidy_visit hs hcur hv) look hlook
        obtain ⟨htemplate', htoday', -, -⟩ := fields_of_standing (standing_visit hv)
        exact ⟨htidy, hcur', htemplate.trans htemplate', htoday.trans htoday'⟩

theorem tidy_feed {r : Except Fault (List Movement)} (hs : Tidy policy s)
    (h : s.feed policy line = (t, r)) : Tidy policy t := by
  have hp := feed_passage policy line s
  rw [h] at hp
  exact hp.tidy (hs.lineNo _)

theorem tidy_feedAll {lines : List Text} {given : List Movement} (hs : Tidy policy s)
    (h : s.feedAll policy lines = .ok (t, given)) : Tidy policy t := by
  induction lines generalizing s given with
  | nil => cases h; exact hs
  | cons line lines ih =>
      obtain ⟨u, own, others, hfeed, hrest, -⟩ := feedAll_cons_ok h
      exact ih (tidy_feed hs hfeed) hrest

/-- Nothing is held after the end of a statement. -/
theorem tidy_finish {given : List Movement} (hs : Tidy policy s)
    (h : s.finish policy = (t, given)) : Tidy policy t ∧ t.held = none := by
  unfold finish at h
  split at h
  · exact tidy_endTable hs h
  · exact tidy_endTable hs h
  next hst _ =>
    have hh := hs.held_eq_none hst
    cases h
    exact ⟨hs.leave hh, hh⟩

end Session

end BankStatement
