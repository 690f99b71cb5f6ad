import Mathlib.Logic.Relation
import BankStatement.Proofs.Session.Containment
import BankStatement.Proofs.Session.Records

/-!
# Sessions however they are used

A session can be fed and finished in any order, and it can be used on after a fault. `Reaches` is
such a use, and `Sound` is what holds after every one of them: what may be held and counted, where
the session stands in its template, and which keys it may have seen (`sound_of_reaches`).

Four invariants make it up, each kept by a line on its way through the sections. `Tidy` and `Placed`
are two of them; `Kept` adds that a held movement has a date and that keys are kept only for a
section that drops duplicates, and `Counted` ties the end of the template to the number of sections
entered. With `Kept`, what a look gives out is proper: a held movement by its date, a movement that
was just read because it was set.

They are apart because their steps are different. Where a session stands changes on entering a
section only, and a look leaves it alone whatever it does (`Counted.of_standing`); what is kept
changes with every row and not on entering. `Steady` joins the four for the induction over uses, and
`Sound` is what is told to the outside, in terms of the session's own fields.

A fault is one more outcome and no exception: the session behind it is the one that `feed` returns
with it, so the step lemmas cover it by leaving the result of a look open.
-/

namespace BankStatement

/-- A movement that counts and does not stand for a line that could not be read. -/
def Movement.IsProper (m : Movement) : Prop := m.isSet = true ∧ m.isError = false

theorem Movement.isSet_of_bookingDate {m : Movement} (h : m.bookingDate.isSome = true) :
    m.isSet = true := by
  obtain ⟨d, hd⟩ := Option.isSome_iff_exists.mp h
  simp [Movement.isSet, hd]

/-- No assignment takes a booking date away. -/
theorem Movement.assign_keeps_date {template : Template} {m m' : Movement} {v : MovementVariable}
    {name value : Text} {mode : Mode} {multiplier : Int} (hm : m.bookingDate.isSome = true)
    (h : m.assign template v name value mode multiplier = .ok m') :
    m'.bookingDate.isSome = true := by
  by_cases hv : v = .bookingDate
  · subst hv
    simp only [Movement.assign, bind, Except.bind, pure, Except.pure] at h
    split at h
    · cases h
    · cases h
      unfold Mode.merge
      split
      · exact hm
      · rfl
  · rw [Movement.assign_bookingDate hv h]
    exact hm

/-- What a line gives by itself was set, unless it stands for a line that could not be read. -/
theorem Section.readRecord_isSet {sec : Section} {template : Template} {today : Date}
    {withAdditional : Bool} {line : Text} {header header' : Header} {m : Movement}
    (h : sec.readRecord template today withAdditional line header = (header', .ok (some m)))
    (hm : m.isError = false) : m.isSet = true := by
  obtain ⟨m₀, hfinished⟩ := finished_of_readRecord h hm
  unfold Movement.finished? at hfinished
  split at hfinished
  next hset => cases hfinished; exact hset
  next => cases hfinished

namespace Session

variable {policy : Option Continuation} {c : Continuation} {sec : Section} {line : Text}
  {s t : Session}

/-- One use of a session. After a fault it goes on with what it had by then. -/
inductive Used (policy : Option Continuation) : Session → Session → Prop where
  | feed (s : Session) (line : Text) : Used policy s (s.feed policy line).1
  | finish (s : Session) : Used policy s (s.finish policy).1

/-- One session is the other one after any uses. -/
def Reaches (policy : Option Continuation) : Session → Session → Prop :=
  Relation.ReflTransGen (Used policy)

/-- Feeds lines one after the other and goes on after faults. -/
def feedOn (policy : Option Continuation) (lines : List Text) (s : Session) : Session :=
  lines.foldl (fun s line => (s.feed policy line).1) s

theorem reaches_feedOn (policy : Option Continuation) (lines : List Text) (s : Session) :
    Reaches policy s (s.feedOn policy lines) := by
  induction lines generalizing s with
  | nil => exact Relation.ReflTransGen.refl
  | cons line lines ih => exact Relation.ReflTransGen.head (.feed s line) (ih _)

/-! ## What is kept -/

/-- What a session may keep: a held movement with a date, and keys for a section that drops
duplicates. -/
structure Kept (s : Session) : Prop where
  held_dated : ∀ m, s.held = some m → m.bookingDate.isSome = true
  seen_eq : s.dropsDuplicates = false → s.seen = []

theorem Kept.of_same (hk : Kept s) (hheld : t.held = s.held ∨ t.held = none)
    (hcur : t.current = s.current) (hseen : t.seen = s.seen) : Kept t where
  held_dated m hm := by
    rcases hheld with hheld | hheld
    · exact hk.held_dated m (hheld ▸ hm)
    · rw [hheld] at hm; cases hm
  seen_eq hdrop := by
    rw [hseen]
    refine hk.seen_eq ?_
    rwa [dropsDuplicates, hcur] at hdrop

/-- What is held stays dated while rules are tried on it, also when one of them fails, and it is
dated when it is let go. Rules can change a date, but an assignment that cannot read one leaves the
old one in place. -/
theorem foldRules_dated {rules : List Rule} {h : Movement} {r : Except Fault (Option Movement)}
    (hh : s.held = some h) (hd : h.bookingDate.isSome = true)
    (hf : foldRules line rules s = (t, r)) :
    (∀ m, t.held = some m → m.bookingDate.isSome = true)
      ∧ ∀ m, r = .ok (some m) → m.bookingDate.isSome = true := by
  induction rules generalizing s h with
  | nil =>
      cases hf
      refine ⟨fun m hm => ?_, by simp⟩
      obtain rfl := Option.some.inj (hh.symm.trans hm)
      exact hd
  | cons rule rules ih =>
      cases happly : rule.apply s.template line .always ⟨s.header, s.held⟩ with
      | mk target found =>
          obtain ⟨m', hm', hd'⟩ := Rule.apply_preserves (P := fun m => m.bookingDate.isSome = true)
            (fun _ _ _ _ _ _ _ hn hassign => Movement.assign_keeps_date hn hassign) hh hd happly
          simp only [foldRules, happly] at hf
          rcases found with fault | _ | _
          · -- what the rule had assigned before it failed stays, the date of the movement with it
            cases hf
            refine ⟨fun m hm => ?_, by simp⟩
            obtain rfl := Option.some.inj (hm'.symm.trans hm)
            exact hd'
          · exact ih hm' hd' hf
          · simp only [release] at hf
            split at hf
            · cases hf
              refine ⟨by simp, fun m hm => ?_⟩
              obtain rfl := Option.some.inj (hm'.symm.trans (Except.ok.inj hm))
              exact hd'
            · exact ih hm' hd' hf

/-- What a row leaves held is dated, and what it gives was set, unless it cannot be read. -/
def Dated (t : Session) (r : Except Fault (Option Movement)) : Prop :=
  (∀ m, t.held = some m → m.bookingDate.isSome = true)
    ∧ ∀ m, r = .ok (some m) → m.isError = false → m.isSet = true

theorem foldLine_dated {r : Except Fault (Option Movement)} (hk : Kept s)
    (hf : s.foldLine c sec line = (t, r)) : Dated t r := by
  cases foldLine_folded hf with
  | fault => exact ⟨hk.held_dated, by simp⟩
  | returned hh hp =>
      refine ⟨hk.held_dated, ?_⟩
      rintro m ⟨⟩ herror
      exact Section.readRecord_isSet hp herror
  | opened hh hp herror hd =>
      refine ⟨?_, by simp⟩
      rintro m ⟨⟩
      exact hd
  | unreadable hh hp herror =>
      refine ⟨hk.held_dated, ?_⟩
      rintro m ⟨⟩ herror'
      rw [herror] at herror'
      cases herror'
  | next hh hp herror hcomplete =>
      refine ⟨?_, ?_⟩
      · rintro m ⟨⟩
        exact (Bool.and_eq_true _ _ ▸ hcomplete).1
      · rintro m ⟨⟩ -
        exact Movement.isSet_of_bookingDate (hk.held_dated _ hh)
  | ignored => exact ⟨hk.held_dated, by simp⟩
  | @continued header _ _ hh _ _ _ _ _ hfold =>
      obtain ⟨hheld, hgiven⟩ :=
        foldRules_dated (s := { s with header }) hh (hk.held_dated _ hh) hfold
      exact ⟨hheld, fun m hm _ => Movement.isSet_of_bookingDate (hgiven m hm)⟩

/-- What a line of a dynamic table gives is what it says by itself. -/
theorem parse_of_dynamicLine {m : Movement}
    (h : s.dynamicLine policy sec line = (t, .ok (some m))) :
    ∃ header, s.parse policy sec line = (header, .ok (some m)) := by
  unfold dynamicLine at h
  split at h
  · simp at h
  split at h
  · split at h <;> simp at h
  · simp at h
  next header m' hp =>
    cases herror : m'.isError with
    | true => simp [herror] at h
    | false =>
        simp only [herror, Bool.false_eq_true, if_false, Prod.mk.injEq, Except.ok.injEq,
          Option.some.injEq] at h
        exact ⟨header, h.2 ▸ hp⟩

theorem row_dated {r : Except Fault (Option Movement)} (hk : Kept s)
    (h : s.row policy sec line = (t, r)) : Dated t r := by
  unfold row at h
  split at h
  · cases policy with
    | some c => exact foldLine_dated hk h
    | none =>
        cases h
        exact ⟨hk.held_dated, fun m hm => Section.readRecord_isSet (Prod.ext rfl hm)⟩
  · obtain ⟨header, rfl⟩ := dynamicLine_header h
    refine ⟨hk.held_dated, ?_⟩
    rintro m rfl
    obtain ⟨header', hp⟩ := parse_of_dynamicLine h
    exact Section.readRecord_isSet hp

/-- Rows keep no keys; only giving out does. -/
theorem seen_row {r : Except Fault (Option Movement)} (hs : Tidy policy s)
    (hcur : s.current = some sec) (hrow : s.isRow sec line = true)
    (h : s.row policy sec line = (t, r)) : t.seen = s.seen := by
  cases row_done hs hcur hrow h <;> rfl

theorem kept_row {r : Except Fault (Option Movement)} (hs : Tidy policy s) (hk : Kept s)
    (hcur : s.current = some sec) (hrow : s.isRow sec line = true)
    (h : s.row policy sec line = (t, r)) : Kept t where
  held_dated := (row_dated hk h).1
  seen_eq hdrop := by
    rw [seen_row hs hcur hrow h]
    refine hk.seen_eq ?_
    rwa [dropsDuplicates, (fields_of_standing (standing_row h)).2.2.1] at hdrop

theorem kept_emit? {m? : Option Movement} {given : List Movement} (hk : Kept s)
    (h : s.emit? m? = (t, given)) : Kept t := by
  have hseen : s.dropsDuplicates = false → t.seen = s.seen := by
    intro hdrop
    cases m? with
    | none => cases h; rfl
    | some m =>
        rw [dropsDuplicates] at hdrop
        simp only [emit?, emit, hdrop, Bool.false_eq_true, if_false] at h
        cases h
        rfl
  obtain ⟨⟨seen, rfl⟩, -, -⟩ := emit?_eq h
  exact ⟨hk.held_dated, fun hdrop => (hseen hdrop).trans (hk.seen_eq hdrop)⟩

/-- The end of a table keeps nothing, and what it gives out is proper. -/
theorem kept_endTable {given : List Movement} (hs : Tidy policy s) (hk : Kept s)
    (h : s.endTable policy = (t, given)) : Kept t ∧ ∀ m ∈ given, m.IsProper := by
  have hreleased : Kept { s with held := none, foldCount := 0 } := hk.of_same (.inr rfl) rfl rfl
  -- what is given out is what was held before, so it is the invariant of `s` that dates it
  have hgiven := (endTable_eq hs h).2.1.subset
  simp only [endTable, release_of_tidy hs] at h
  cases hemit : emit? { s with held := none, foldCount := 0 } s.held with
  | mk u own =>
      rw [hemit] at h
      cases h
      refine ⟨(kept_emit? hreleased hemit).of_same (.inl rfl) rfl rfl, fun m hm => ?_⟩
      have hheld : s.held = some m := by simpa using hgiven hm
      exact ⟨Movement.isSet_of_bookingDate (hk.held_dated m hheld), hs.held_readable m hheld⟩

theorem kept_visit {r : Except Fault Visit} (hs : Tidy policy s) (hk : Kept s)
    (hcur : s.current = some sec) (h : s.visit policy sec line = (t, r)) :
    Kept t ∧ ∀ v, r = .ok v → ∀ m ∈ v.movements, m.IsProper := by
  cases visit_looked h with
  | nowhere | passed | left | labels | headings | skipped =>
      refine ⟨hk.of_same (.inl rfl) rfl rfl, ?_⟩
      rintro v ⟨⟩ m hm
      cases hm
  | labelFault => exact ⟨hk.of_same (.inl rfl) rfl rfl, by simp⟩
  | closed _ _ _ he =>
      obtain ⟨hkept, hgiven⟩ := kept_endTable hs hk he
      refine ⟨hkept, ?_⟩
      rintro v ⟨⟩
      exact hgiven
  | rowFault hrow hr => exact ⟨kept_row hs hk hcur hrow hr, by simp⟩
  | unreadable _ hrow hr _ he =>
      obtain ⟨hkept, hgiven⟩ :=
        kept_endTable (tidy_row hs hcur hrow hr) (kept_row hs hk hcur hrow hr) he
      refine ⟨hkept, ?_⟩
      rintro v ⟨⟩
      exact hgiven
  | read hrow hr herror he =>
      refine ⟨kept_emit? (kept_row hs hk hcur hrow hr) he, ?_⟩
      rintro v ⟨⟩ m hm
      have hread := Option.mem_toList.mp ((emit?_eq he).2.1.subset hm)
      have hm' := herror m hread
      exact ⟨(row_dated hk hr).2 m (congrArg _ hread) hm', hm'⟩

theorem kept_start (template : Template) (today : Date) : Kept (start template today) where
  held_dated := by simp [start]
  seen_eq _ := rfl

theorem Passage.kept {looks : List (Section × Session)} {r : Except Fault (List Movement)}
    (hp : Passage policy line s looks t r) (hs : Tidy policy s) (hk : Kept s) :
    Kept t ∧ ∀ given, r = .ok given → ∀ m ∈ given, m.IsProper := by
  induction hp with
  | enter hst hup _ ih =>
      exact ih (hs.enter hst (mem_sections_of_upcoming hup)) ⟨hk.held_dated, fun _ => rfl⟩
  | exhaust =>
      refine ⟨⟨hk.held_dated, fun _ => rfl⟩, ?_⟩
      rintro given ⟨⟩ m hm
      cases hm
  | idle =>
      refine ⟨hk, ?_⟩
      rintro given ⟨⟩ m hm
      cases hm
  | fault _ hcur hv => exact ⟨(kept_visit hs hk hcur hv).1, by simp⟩
  | usedUp _ hcur hv =>
      obtain ⟨hkept, hgiven⟩ := kept_visit hs hk hcur hv
      refine ⟨hkept, ?_⟩
      rintro given ⟨⟩
      exact hgiven _ rfl
  | @handedOn s t u sec own looks r hst hcur hv _ ih =>
      obtain ⟨hkept, hown⟩ := kept_visit hs hk hcur hv
      obtain ⟨hkept', hgiven⟩ := ih (tidy_visit hs hcur hv) hkept
      refine ⟨hkept', ?_⟩
      cases r with
      | error => simp [Except.map]
      | ok given =>
          rintro _ ⟨⟩ m hm
          rcases List.mem_append.mp hm with hm | hm
          · exact hown _ rfl m hm
          · exact hgiven given rfl m hm

/-! ## How far a session has come -/

/-- A session has left all sections exactly when it has entered more than there are, and until then
it stands between sections or in one. -/
structure Counted (s : Session) : Prop where
  exhausted_iff : s.exhausted = true ↔ s.template.sections.length < s.entered
  unplaced : s.current = none → s.stage = .between ∨ s.exhausted = true

theorem counted_start (template : Template) (today : Date) : Counted (start template today) where
  exhausted_iff := by simp [start]
  unplaced _ := .inl rfl

theorem Counted.of_standing (hs : Counted s) (hcur : s.current = some sec)
    (h : t.standing = s.standing) : Counted t := by
  simp only [standing, Standing.mk.injEq] at h
  obtain ⟨htemplate, -, hentered, hcurrent, hexhausted, -⟩ := h
  refine ⟨?_, fun hnone => ?_⟩
  · rw [hexhausted, htemplate, hentered]
    exact hs.exhausted_iff
  · rw [hcurrent, hcur] at hnone
    cases hnone

theorem Counted.enter {rest : List Section} (hs : Counted s) (hup : s.upcoming = sec :: rest) :
    Counted (s.enter sec) where
  exhausted_iff := by
    have hlength := congrArg List.length hup
    simp only [upcoming, List.length_drop, List.length_cons] at hlength
    have hiff := hs.exhausted_iff
    simp only [Session.enter, hiff]
    omega
  unplaced h := by cases h

theorem Counted.exhaust (hup : s.upcoming = []) : Counted s.exhaust where
  exhausted_iff := by
    have hlength := List.drop_eq_nil_iff.mp hup
    simp only [Session.exhaust, true_iff]
    omega
  unplaced _ := .inr rfl

/-- A line takes a session on, never back. -/
theorem Passage.counted {looks : List (Section × Session)} {r : Except Fault (List Movement)}
    (hp : Passage policy line s looks t r) (hs : Counted s) :
    Counted t ∧ s.entered ≤ t.entered := by
  -- a look leaves a session where it stands: only entering the next section takes it on
  have hvisit : ∀ {s t : Session} {sec : Section} {r : Except Fault Visit}, Counted s →
      s.current = some sec → s.visit policy sec line = (t, r) →
      Counted t ∧ s.entered ≤ t.entered := by
    intro s t sec r hs hcur hv
    have hstanding := standing_visit hv
    exact ⟨hs.of_standing hcur hstanding, Nat.le_of_eq (congrArg Standing.entered hstanding).symm⟩
  induction hp with
  | enter hst hup _ ih =>
      obtain ⟨hcounted, hle⟩ := ih (hs.enter hup)
      exact ⟨hcounted, Nat.le_trans (Nat.le_succ _) hle⟩
  | exhaust _ hup => exact ⟨.exhaust hup, Nat.le_succ _⟩
  | idle => exact ⟨hs, Nat.le_refl _⟩
  | fault _ hcur hv | usedUp _ hcur hv => exact hvisit hs hcur hv
  | handedOn _ hcur hv _ ih =>
      obtain ⟨hcounted, hle⟩ := hvisit hs hcur hv
      obtain ⟨hcounted', hle'⟩ := ih hcounted
      exact ⟨hcounted', Nat.le_trans hle hle'⟩

/-! ## Every use -/

/-- The four invariants together. -/
structure Steady (policy : Option Continuation) (s : Session) : Prop
    extends Tidy policy s, Placed s, Kept s, Counted s

/-- What holds of a session however it has been used. The number of sections entered is one more
than the index of the current one. -/
structure Sound (policy : Option Continuation) (s : Session) : Prop extends Tidy policy s where
  held_dated : ∀ m, s.held = some m → m.bookingDate.isSome = true
  exhausted_iff : s.exhausted = true ↔ s.template.sections.length < s.entered
  current_eq : s.stage ≠ .between → s.exhausted = false →
    ∃ sec i, s.current = some sec ∧ s.entered = i + 1 ∧ s.template.sections[i]? = some sec
      ∧ s.stage.Fits sec.kind
  seen_eq : s.dropsDuplicates = false → s.seen = []

theorem Steady.sound (hs : Steady policy s) : Sound policy s where
  toTidy := hs.toTidy
  held_dated := hs.held_dated
  exhausted_iff := hs.exhausted_iff
  current_eq hst hexhausted := by
    cases hcur : s.current with
    | none =>
        rcases hs.unplaced hcur with h | h
        · exact absurd h hst
        · rw [hexhausted] at h; cases h
    | some sec =>
        obtain ⟨i, hentered, hsec⟩ := hs.toPlaced.current_eq sec hcur
        exact ⟨sec, i, rfl, hentered, hsec, hs.stage_fits sec hcur⟩
  seen_eq := hs.seen_eq

theorem steady_start (policy : Option Continuation) (template : Template) (today : Date) :
    Steady policy (start template today) where
  toTidy := tidy_start policy template today
  toPlaced := placed_start template today
  toKept := kept_start template today
  toCounted := counted_start template today

theorem Steady.lineNo (hs : Steady policy s) (n : Nat) : Steady policy { s with lineNo := n } where
  toTidy := hs.toTidy.lineNo n
  toPlaced := hs.toPlaced.lineNo n
  toKept := hs.toKept.of_same (.inl rfl) rfl rfl
  toCounted := ⟨hs.exhausted_iff, hs.unplaced⟩

/-- A line keeps the invariants, also when it cannot be read, and brings proper movements. -/
theorem steady_feed {r : Except Fault (List Movement)} (hs : Steady policy s)
    (h : s.feed policy line = (t, r)) :
    Steady policy t ∧ s.entered ≤ t.entered ∧ ∀ given, r = .ok given → ∀ m ∈ given, m.IsProper := by
  have hp := feed_passage policy line s
  rw [h] at hp
  have hs' := hs.lineNo (s.lineNo + 1)
  obtain ⟨hkept, hgiven⟩ := hp.kept hs'.toTidy hs'.toKept
  obtain ⟨hcounted, hle⟩ := hp.counted hs'.toCounted
  exact ⟨⟨hp.tidy hs'.toTidy, hp.placed hs'.toPlaced, hkept, hcounted⟩, hle, hgiven⟩

theorem finish_cases {given : List Movement} (h : s.finish policy = (t, given)) :
    s.endTable policy = (t, given) ∨ t = s.leave ∧ given = [] := by
  unfold finish at h
  split at h
  · exact .inl h
  · exact .inl h
  · cases h; exact .inr ⟨rfl, rfl⟩

/-- The end of a statement leaves a session where it stands, between two sections. -/
theorem standing_finish {given : List Movement} (h : s.finish policy = (t, given)) :
    t.standing = s.standing ∧ t.stage = .between := by
  rcases finish_cases h with he | ⟨rfl, -⟩
  · exact ⟨standing_endTable he, stage_endTable he⟩
  · exact ⟨rfl, rfl⟩

theorem steady_finish {given : List Movement} (hs : Steady policy s)
    (h : s.finish policy = (t, given)) :
    Steady policy t ∧ s.entered = t.entered ∧ ∀ m ∈ given, m.IsProper := by
  have hend : Kept t ∧ ∀ m ∈ given, m.IsProper := by
    rcases finish_cases h with he | ⟨rfl, rfl⟩
    · exact kept_endTable hs.toTidy hs.toKept he
    · exact ⟨hs.toKept.of_same (.inl rfl) rfl rfl, by simp⟩
  obtain ⟨hstanding, hst⟩ := standing_finish h
  simp only [standing, Standing.mk.injEq] at hstanding
  obtain ⟨htemplate, -, hentered, hcurrent, hexhausted, -⟩ := hstanding
  have hplaced : Placed t := by
    refine ⟨?_, fun _ => .inl hst⟩
    rw [htemplate, hentered, hcurrent]
    exact hs.toPlaced.current_eq
  have hcounted : Counted t := by
    refine ⟨?_, fun _ => .inl hst⟩
    rw [hexhausted, htemplate, hentered]
    exact hs.exhausted_iff
  exact ⟨⟨(tidy_finish hs.toTidy h).1, hplaced, hend.1, hcounted⟩, hentered.symm, hend.2⟩

theorem steady_used (hs : Steady policy s) (hu : Used policy s t) :
    Steady policy t ∧ s.entered ≤ t.entered := by
  cases hu with
  | feed line =>
      obtain ⟨ht, hle, -⟩ := steady_feed hs (rfl : s.feed policy line = _)
      exact ⟨ht, hle⟩
  | finish =>
      obtain ⟨ht, heq, -⟩ := steady_finish hs rfl
      exact ⟨ht, Nat.le_of_eq heq⟩

theorem steady_reaches (hs : Steady policy s) (hr : Reaches policy s t) :
    Steady policy t ∧ s.entered ≤ t.entered := by
  induction hr with
  | refl => exact ⟨hs, Nat.le_refl _⟩
  | tail _ hu ih =>
      obtain ⟨ht, hle⟩ := steady_used ih.1 hu
      exact ⟨ht, Nat.le_trans ih.2 hle⟩

theorem used_template (hu : Used policy s t) : t.template = s.template := by
  cases hu with
  | feed line => exact (feed_passage policy line s).standing.1
  | finish => exact (fields_of_standing (standing_finish rfl).1).1

theorem reaches_template (hr : Reaches policy s t) : t.template = s.template := by
  induction hr with
  | refl => rfl
  | tail _ hu ih => exact (used_template hu).trans ih

/-- However a session has been used, it is sound and reads the template it was started with. From
there on it never goes back to a section, and every movement it gives out is proper. Nothing is
assumed of the uses: lines may follow the end of the statement, and faults do not end them. -/
theorem sound_of_reaches (template : Template) (policy : Option Continuation) (today : Date)
    (s : Session) (hr : Reaches policy (start template today) s) :
    s.template = template ∧ Sound policy s
      ∧ (∀ t, Reaches policy s t → s.entered ≤ t.entered)
      ∧ (∀ line given, (s.feed policy line).2 = .ok given →
        ∀ m ∈ given, m.isSet = true ∧ m.isError = false)
      ∧ ∀ m ∈ (s.finish policy).2, m.isSet = true ∧ m.isError = false := by
  obtain ⟨hs, -⟩ := steady_reaches (steady_start policy template today) hr
  refine ⟨reaches_template hr, hs.sound, fun t ht => (steady_reaches hs ht).2, ?_, ?_⟩
  · intro line given hgiven
    exact (steady_feed hs rfl).2.2 given hgiven
  · exact (steady_finish hs rfl).2.2

/-- A session that is used on after a continuation line whose amount cannot be read still holds the
movement that the line was to continue, and the end of the statement brings it. -/
theorem sound_of_reaches_priced :
    (((start Template.priced ⟨2024, 12, 31, by decide⟩).feedOn (some {})
        ["01.02.2024 x".toList]).feed (some {}) "Amt abc".toList).2.toOption = none
      ∧ Reaches (some {}) (start Template.priced ⟨2024, 12, 31, by decide⟩)
        ((start Template.priced ⟨2024, 12, 31, by decide⟩).feedOn (some {})
          ["01.02.2024 x".toList, "Amt abc".toList])
      ∧ Sound (some {}) ((start Template.priced ⟨2024, 12, 31, by decide⟩).feedOn (some {})
        ["01.02.2024 x".toList, "Amt abc".toList])
      ∧ (((start Template.priced ⟨2024, 12, 31, by decide⟩).feedOn (some {})
        ["01.02.2024 x".toList, "Amt abc".toList]).finish (some {})).2.length = 1
      ∧ ∀ m ∈ (((start Template.priced ⟨2024, 12, 31, by decide⟩).feedOn (some {})
        ["01.02.2024 x".toList, "Amt abc".toList]).finish (some {})).2,
        m.isSet = true ∧ m.isError = false := by
  have hr := reaches_feedOn (some {}) ["01.02.2024 x".toList, "Amt abc".toList]
    (start Template.priced ⟨2024, 12, 31, by decide⟩)
  obtain ⟨-, hsound, -, -, hlast⟩ := sound_of_reaches _ _ _ _ hr
  exact ⟨by decide +kernel, hr, hsound, by decide +kernel, hlast⟩

end Session

end BankStatement
