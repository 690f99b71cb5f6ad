import BankStatement.Proofs.Reading.Assignments
import BankStatement.Proofs.Session.Folding

/-!
# How often a rule continues a movement

In a table with one additional rule, a bound on its occurrences says how many lines may continue a
movement. A session keeps one count for all movements of a table; here each movement has a `Course`
of its own, with the lines that have continued it, and `courses` follows them along the lines of the
table without looking at the count. The count is the length of the course that is held (`Counts`),
so no course gets longer than the bound, and the line that reaches it is the last one
(`courses_bounded`).

Following the courses independently is what makes the statement more than a reading of the counter.
A course gains a line when the rule is found in a line that begins nothing and is not ignored
(`takes`), and a new course starts with what a row begins; if the session forgot to reset its count
between two movements, its count and the length of the course would part, and `Counts` would fail.

`Turn` is what a row can do, one constructor for each way out, and the proofs about runs split on
it. It is `RowDone` with the courses added, for one additional rule only: with several rules the one
count of the session is shared by them, and there is no length that it would be.

The rows are assumed to be readable (`IsInner`), because a line that cannot be read ends the table
and with it every course.
-/

namespace BankStatement

variable {template : Template} {today : Date} {sec : Section} {r : Rule} {line : Text}
  {m : Movement}

/-- What the fields and primary rules of a line say. -/
def Section.tells (sec : Section) (template : Template) (today : Date) (line : Text) :
    Except Fault (Option Movement) :=
  (sec.readRecord template today false line {}).2

/-- A line is read as a row and does not end the table. -/
structure Section.IsInner (sec : Section) (template : Template) (today : Date) (line : Text) :
    Prop where
  full : Text.isBlankText line = false
  inside : sec.endsAt line = false
  readable : ∀ m ∈ (sec.tells template today line).toOption.join, m.isError = false

instance Section.IsInner.decidable (sec : Section) (template : Template) (today : Date)
    (line : Text) : Decidable (sec.IsInner template today line) :=
  decidable_of_iff (Text.isBlankText line = false ∧ sec.endsAt line = false
      ∧ ∀ m ∈ (sec.tells template today line).toOption.join, m.isError = false)
    ⟨fun ⟨full, inside, readable⟩ => ⟨full, inside, readable⟩,
      fun h => ⟨h.full, h.inside, h.readable⟩⟩

/-- What a rule makes of a movement with the values of a line. -/
def Rule.onto (template : Template) (r : Rule) (m : Movement) (line : Text) : Movement :=
  (r.apply template line .always ⟨{}, some m⟩).1.movement.getD m

/-- A rule that is tried on a movement changes it, if it is found, whatever the header is, and does
not mark it as an error. -/
theorem Rule.apply_onto {header : Header} {target : Target} {found : Bool}
    (h : r.apply template line .always ⟨header, some m⟩ = (target, .ok found)) :
    found = (r.pattern.search? line).isSome ∧ target.movement = some (r.onto template m line)
      ∧ (r.onto template m line).isError = m.isError := by
  rw [Rule.apply_eq] at h
  obtain ⟨hsame, -⟩ := Assignment.movement_of_makeAll template (r.assignments line)
    header {} (some m)
  cases hmake : Assignment.makeAll template (r.assignments line) ⟨header, some m⟩ with
  | mk made result =>
      rw [hmake] at h hsame
      obtain ⟨m', hm', herror⟩ := Assignment.isError_of_makeAll rfl hmake
      have honto : r.onto template m line = m' := by
        rw [Rule.onto, Rule.apply_eq, ← hsame, hm', Option.getD_some]
      cases result with
      | error => cases h
      | ok => cases h; exact ⟨rfl, hm'.trans (congrArg some honto.symm), honto ▸ herror⟩

/-- The course of a movement through a table: what began it, and the lines that have continued it
since. -/
structure Course where
  opening : Movement
  lines : List Text := []

namespace Course

/-- The course after one more line. -/
def add (course : Course) (line : Text) : Course :=
  { course with lines := course.lines ++ [line] }

/-- What the lines of a course have made of its movement. -/
def movement (template : Template) (r : Rule) (course : Course) : Movement :=
  course.lines.foldl (r.onto template) course.opening

@[simp] theorem length_add (course : Course) (line : Text) :
    (course.add line).lines.length = course.lines.length + 1 := by
  simp [add]

@[simp] theorem movement_add (course : Course) (line : Text) :
    (course.add line).movement template r = r.onto template (course.movement template r) line := by
  simp [add, movement]

end Course

namespace Session

variable {c : Continuation} {s t : Session} {header : Header} {m? : Option Movement} {k : Nat}
  {course? : Option Course} {given : List Movement}

/-! ## Following the courses -/

/-- A line continues the held movement: it begins no other one, is not to be ignored, and the rule
is found in it. -/
def takes (c : Continuation) (sec : Section) (r : Rule) (line : Text) (s : Session) : Bool :=
  s.held.isSome && (s.begun (some c) sec line).isNone && !sec.ignores line
    && (r.pattern.search? line).isSome

/-- The courses that a line brings to their end, and the one of the movement that is held behind it,
where a row takes the session from `s` to `t`. -/
def follow (c : Continuation) (sec : Section) (r : Rule) (line : Text) (s t : Session)
    (course? : Option Course) : List Course × Option Course :=
  match s.begun (some c) sec line with
  | some m => if t.held.isSome then (course?.toList, some ⟨m, []⟩) else ([⟨m, []⟩], none)
  | none =>
    let course? := if s.takes c sec r line then course?.map (·.add line) else course?
    if t.held.isSome then ([], course?) else (course?.toList, none)

/-- The courses that come to their end along some lines, and the one of the movement that is held
behind them. -/
def courses (c : Continuation) (sec : Section) (r : Rule) :
    List Text → Session → Option Course → List Course × Option Course
  | [], _, course? => ([], course?)
  | line :: lines, s, course? =>
    let t := (s.feed (some c) line).1
    let (ended, course?) := follow c sec r (trimLineEnd line) s t course?
    let (others, last) := courses c sec r lines t course?
    (ended ++ others, last)

/-- The count of a session is the length of the course of what it holds. -/
structure Counts (r : Rule) (k : Nat) (course? : Option Course) (s : Session) : Prop where
  held_eq : s.held = course?.map (·.movement s.template r)
  count_eq : ∀ course ∈ course?, s.foldCount = course.lines.length
  lt : ∀ course ∈ course?, course.lines.length < k
  readable : ∀ m ∈ s.held, m.isError = false

theorem counts_none (hheld : s.held = none) : Counts r k none s where
  held_eq := hheld
  count_eq := by simp
  lt := by simp
  readable := by simp [hheld]

theorem Counts.lineNo (hs : Counts r k course? s) (n : Nat) :
    Counts r k course? { s with lineNo := n } where
  held_eq := hs.held_eq
  count_eq := hs.count_eq
  lt := hs.lt
  readable := hs.readable

theorem Counts.course_of_held (hs : Counts r k course? s) {h : Movement} (hheld : s.held = some h) :
    ∃ course, course? = some course ∧ h = course.movement s.template r := by
  have heq := hs.held_eq
  rw [hheld] at heq
  obtain ⟨course, hcourse, hmovement⟩ := Option.map_eq_some_iff.mp heq.symm
  exact ⟨course, hcourse, hmovement.symm⟩

/-! ## One row -/

/-- What a row of a table with a bounded rule can do to the session and the course of what it
holds. -/
inductive Turn (c : Continuation) (sec : Section) (r : Rule) (k : Nat) (line : Text) (s : Session) :
    Option Course → Session → List Course → Option Course → Prop where
  /-- It changes nothing that is held. -/
  | passed {header : Header} {course? : Option Course} (hb : s.begun (some c) sec line = none)
      (ht : s.takes c sec r line = false) :
      Turn c sec r k line s course? { s with header } [] course?
  /-- It begins a movement that is given out at once. -/
  | single {header : Header} {m : Movement} (hb : s.begun (some c) sec line = some m)
      (hm : m.isError = false) :
      Turn c sec r k line s none { s with header } [⟨m, []⟩] none
  /-- It begins a movement that is held in place of what was held. -/
  | begins {header : Header} {m : Movement} {course? : Option Course}
      (hb : s.begun (some c) sec line = some m) (hm : m.isError = false) :
      Turn c sec r k line s course? { s with header, held := some m, foldCount := 0 }
        course?.toList (some ⟨m, []⟩)
  /-- It continues the held movement. -/
  | grown {header : Header} {course : Course} (ht : s.takes c sec r line = true)
      (hlt : course.lines.length + 1 < k)
      (hm : ((course.add line).movement s.template r).isError = false) :
      Turn c sec r k line s (some course)
        { s with
          header
          held := some ((course.add line).movement s.template r)
          foldCount := course.lines.length + 1 }
        [] (some (course.add line))
  /-- It continues the held movement for the last time. -/
  | finished {header : Header} {course : Course} (ht : s.takes c sec r line = true)
      (hlast : course.lines.length + 1 = k)
      (hm : ((course.add line).movement s.template r).isError = false) :
      Turn c sec r k line s (some course) { s with header, held := none, foldCount := 0 }
        [course.add line] none

theorem begun_of_takes (h : s.takes c sec r line = true) : s.begun (some c) sec line = none := by
  simp only [takes, Bool.and_eq_true, Option.isNone_iff_eq_none] at h
  exact h.1.1.2

/-- What a line says can be told without the session. -/
theorem parse_eq_tells (c : Continuation) (sec : Section) (line : Text) (s : Session) :
    (s.parse (some c) sec line).2 = sec.tells s.template s.today line :=
  sec.readRecord_header s.template s.today false line s.header {}

theorem readable_of_parse (hline : sec.IsInner s.template s.today line)
    (hp : s.parse (some c) sec line = (header, .ok (some m))) : m.isError = false := by
  have htells := parse_eq_tells c sec line s
  rw [hp] at htells
  exact hline.readable m (by rw [← htells]; rfl)

theorem isRow_of_isInner (hst : s.stage = .table)
    (hline : sec.IsInner s.template s.today line) : s.isRow sec line = true := by
  simp [isRow, hst, hline.full, hline.inside]

theorem isSpent_succ (hmost : r.maxOccurrence = some (k : Int)) (hk : 0 < k) (n : Nat) :
    r.isSpent (n + 1) = decide (k ≤ n + 1) := by
  simp only [Rule.isSpent, hmost, Int.ofNat_eq_natCast]
  have hne : ((k : Int) != 0) = true := by simp; omega
  rw [hne, Bool.true_and, decide_eq_decide]
  omega

/-- A line that would continue what is held is tried with the rule. -/
theorem turn_of_foldRules {h : Movement} (hmost : r.maxOccurrence = some (k : Int)) (hk : 0 < k)
    (hs : Counts r k course? s) (hheld : s.held = some h)
    (hb : s.begun (some c) sec line = none) (hi : sec.ignores line = false)
    (hf : foldRules line [r] { s with header } = (t, .ok m?)) :
    ∃ ended course?', Turn c sec r k line s course? t ended course?'
      ∧ m?.toList = ended.map (·.movement s.template r) := by
  obtain ⟨course, rfl, rfl⟩ := hs.course_of_held hheld
  have hcount : s.foldCount = course.lines.length := hs.count_eq course rfl
  have htakes : s.takes c sec r line = (r.pattern.search? line).isSome := by
    simp [takes, hheld, hb, hi]
  cases happly : r.apply s.template line .always ⟨header, s.held⟩ with
  | mk target result =>
      cases result with
      | error => simp [foldRules, happly] at hf
      | ok found =>
          have happly' := happly
          rw [hheld] at happly'
          obtain ⟨hfound, hmovement, herror⟩ := Rule.apply_onto happly'
          obtain ⟨header', held'⟩ := target
          rw [← hfound] at htakes
          cases found with
          | false =>
              cases Rule.target_of_apply_false happly
              rw [foldRules_of_notFound happly] at hf
              cases hf
              exact ⟨[], _, .passed hb htakes, rfl⟩
          | true =>
              have hspent := isSpent_succ hmost hk s.foldCount
              have hreadable := hs.readable _ hheld
              rw [← herror, ← Course.movement_add] at hreadable
              rw [← Course.movement_add] at hmovement
              obtain rfl : held' = _ := hmovement
              rcases Nat.lt_or_ge (course.lines.length + 1) k with hlt | hge
              · rw [foldRules_of_found happly (by simp [hspent]; omega)] at hf
                cases hf
                simp only [hcount]
                exact ⟨[], _, .grown htakes hlt hreadable, rfl⟩
              · have hlast : course.lines.length + 1 = k := by
                  have hlt := hs.lt course rfl
                  omega
                rw [foldRules_of_spent happly (by simp [hspent]; omega)] at hf
                cases hf
                exact ⟨[course.add line], none, .finished htakes hlast hreadable, rfl⟩

theorem turn_of_foldLine (hrules : sec.rulesOf .additional = [r])
    (hmost : r.maxOccurrence = some (k : Int)) (hk : 0 < k) (hst : s.stage = .table)
    (hs : Counts r k course? s) (hline : sec.IsInner s.template s.today line)
    (hf : s.foldLine c sec line = (t, .ok m?)) :
    ∃ ended course?', Turn c sec r k line s course? t ended course?'
      ∧ m?.toList = ended.map (·.movement s.template r) := by
  have hrow := isRow_of_isInner hst hline
  have hnone {h : s.held = none} : course? = none := by
    have heq := hs.held_eq
    rwa [h, eq_comm, Option.map_eq_none_iff] at heq
  generalize hr : Except.ok m? = result at hf
  cases foldLine_folded hf with
  | fault => cases hr
  | @returned header m? hheld hp hm =>
      cases hr
      obtain rfl := hnone (h := hheld)
      cases m? with
      | none => exact ⟨[], none, .passed (by simp [begun, hrow, hp]) (by simp [takes, hheld]), rfl⟩
      | some m =>
          have herror := readable_of_parse hline hp
          exact ⟨[⟨m, []⟩], none, .single (by simp [begun, hrow, hp, herror, hheld]) herror, rfl⟩
  | opened hheld hp herror hd =>
      cases hr
      obtain rfl := hnone (h := hheld)
      exact ⟨[], _, .begins (by simp [begun, hrow, hp, herror, hheld]) herror, rfl⟩
  | @unreadable header m h hheld hp herror =>
      rw [readable_of_parse hline hp] at herror
      cases herror
  | next hheld hp herror hc =>
      cases hr
      obtain ⟨course, rfl, rfl⟩ := hs.course_of_held hheld
      exact ⟨[course], _, .begins (by simp [begun, hrow, hp, herror, hc]) herror, rfl⟩
  | ignored hheld hp hm hi =>
      cases hr
      exact ⟨[], course?, .passed (begun_of_continues hheld hp hm) (by simp [takes, hi]), rfl⟩
  | continued hheld hp hm hi hfold =>
      subst hr
      rw [hrules] at hfold
      exact turn_of_foldRules hmost hk hs hheld (begun_of_continues hheld hp hm) hi hfold

/-! ## What a turn keeps -/

variable {ended : List Course} {course?' : Option Course}

theorem Turn.standing (h : Turn c sec r k line s course? t ended course?') :
    t.standing = s.standing ∧ t.stage = s.stage := by
  cases h <;> exact ⟨rfl, rfl⟩

theorem Turn.counts (h : Turn c sec r k line s course? t ended course?') (hk : 0 < k)
    (hs : Counts r k course? s) : Counts r k course?' t := by
  cases h with
  | passed => exact ⟨hs.held_eq, hs.count_eq, hs.lt, hs.readable⟩
  | single => exact ⟨hs.held_eq, by simp, by simp, hs.readable⟩
  | begins hb hm =>
      exact ⟨rfl, by simp, by simpa using hk, by simpa using hm⟩
  | grown ht hlt hm =>
      exact ⟨rfl, by simp, by simpa using hlt, by simpa using hm⟩
  | finished => exact counts_none rfl

/-- No course is longer than the bound. -/
theorem Turn.length_le (h : Turn c sec r k line s course? t ended course?')
    (hs : Counts r k course? s) : ∀ course ∈ ended, course.lines.length ≤ k := by
  cases h with
  | passed | grown => simp
  | single => simp
  | begins => exact fun course hcourse => Nat.le_of_lt (hs.lt course (by simpa using hcourse))
  | finished ht hlast => simpa using Nat.le_of_eq hlast

/-- No course comes to an error movement. -/
theorem Turn.readable (h : Turn c sec r k line s course? t ended course?')
    (hs : Counts r k course? s) :
    ∀ course ∈ ended, (course.movement s.template r).isError = false := by
  cases h with
  | passed | grown => simp
  | single hb hm => simpa [Course.movement] using hm
  | begins =>
      intro course hcourse
      refine hs.readable _ ?_
      rw [hs.held_eq, Option.mem_toList.mp hcourse]
      rfl
  | finished ht hlast hm => simpa using hm

/-- The courses are followed without the count: what a turn does to them can be told from the line
and from what is held before and behind it. -/
theorem Turn.follow_eq (h : Turn c sec r k line s course? t ended course?')
    (hs : Counts r k course? s) : follow c sec r line s t course? = (ended, course?') := by
  cases h with
  | passed hb ht =>
      simp only [follow, hb, ht, Bool.false_eq_true, if_false]
      cases course? with
      | none => simp [hs.held_eq]
      | some => simp [hs.held_eq]
  | single hb =>
      have hheld : s.held = none := hs.held_eq
      simp [follow, hb, hheld]
  | begins hb => simp [follow, hb]
  | grown ht => simp [follow, begun_of_takes ht, ht]
  | finished ht => simp [follow, begun_of_takes ht, ht]

/-- A movement that begins and is held is counted from zero. -/
theorem Turn.of_begun (h : Turn c sec r k line s course? t ended course?')
    (hs : Counts r k course? s) (m : Movement) (hb : s.begun (some c) sec line = some m) :
    t.held = none ∨ t.held = some m ∧ t.foldCount = 0 := by
  cases h with
  | passed hb' => rw [hb'] at hb; cases hb
  | single => exact .inl hs.held_eq
  | begins hb' => rw [hb'] at hb; cases hb; exact .inr ⟨rfl, rfl⟩
  | grown ht | finished ht => rw [begun_of_takes ht] at hb; cases hb

/-- A line that continues the held movement gives it out when it reaches the bound, and not
before. -/
theorem Turn.of_takes (h : Turn c sec r k line s course? t ended course?')
    (ht : s.takes c sec r line = true) :
    ∃ course, course? = some course
      ∧ let movement := (course.add line).movement s.template r
        if course.lines.length + 1 = k then
          ended.map (·.movement s.template r) = [movement] ∧ t.held = none
        else ended.map (·.movement s.template r) = [] ∧ t.held = some movement := by
  cases h with
  | passed hb ht' => rw [ht'] at ht; cases ht
  | single hb | begins hb => rw [begun_of_takes ht] at hb; cases hb
  | @grown header course ht hlt =>
      refine ⟨course, rfl, ?_⟩
      intro movement
      rw [if_neg (Nat.ne_of_lt hlt)]
      exact ⟨rfl, rfl⟩
  | @finished header course ht hlast =>
      refine ⟨course, rfl, ?_⟩
      intro movement
      rw [if_pos hlast]
      exact ⟨rfl, rfl⟩

/-- A row that is fed takes a turn, and gives out what its courses have come to. -/
theorem turn_of_feed (hkeeps : sec.removeDuplicates = false)
    (hrules : sec.rulesOf .additional = [r])
    (hmost : r.maxOccurrence = some (k : Int)) (hk : 0 < k) (hst : s.stage = .table)
    (hcur : s.current = some sec) (hs : Counts r k course? s)
    (hline : sec.IsInner s.template s.today (trimLineEnd line))
    (hfeed : s.feed (some c) line = (t, .ok given)) :
    ∃ ended course?', Turn c sec r k (trimLineEnd line) { s with lineNo := s.lineNo + 1 } course? t
        ended course?' ∧ given = ended.map (·.movement s.template r) := by
  have hs' := hs.lineNo (s.lineNo + 1)
  cases hfold : ({ s with lineNo := s.lineNo + 1 } : Session).foldLine c sec (trimLineEnd line) with
  | mk u result =>
      cases result with
      | error fault =>
          rw [feed_of_foldLine_error hst hcur hline.full hline.inside hfold] at hfeed
          cases hfeed
      | ok m? =>
          obtain ⟨ended, course?', hturn, hgiven⟩ :=
            turn_of_foldLine (s := { s with lineNo := s.lineNo + 1 }) hrules hmost hk hst hs' hline
              hfold
          have hreadable : ∀ m ∈ m?, m.isError = false := by
            intro m hm
            have hmem : m ∈ m?.toList := Option.mem_toList.mpr hm
            rw [hgiven] at hmem
            obtain ⟨course, hcourse, rfl⟩ := List.mem_map.mp hmem
            exact hturn.readable hs' course hcourse
          rw [feed_of_trimmed hst hcur hkeeps hline.full hline.inside hfold hreadable] at hfeed
          cases hfeed
          exact ⟨ended, course?', hturn, hgiven⟩

/-! ## All rows -/

theorem counts_feedAll {lines : List Text} (hkeeps : sec.removeDuplicates = false)
    (hrules : sec.rulesOf .additional = [r]) (hmost : r.maxOccurrence = some (k : Int)) (hk : 0 < k)
    (hst : s.stage = .table) (hcur : s.current = some sec) (hs : Counts r k course? s)
    (hlines : ∀ line ∈ lines, sec.IsInner s.template s.today (trimLineEnd line))
    (hfeed : s.feedAll (some c) lines = .ok (t, given)) :
    (t.stage = .table ∧ t.current = some sec)
      ∧ Counts r k (courses c sec r lines s course?).2 t
      ∧ given = (courses c sec r lines s course?).1.map (·.movement s.template r)
      ∧ ∀ course ∈ (courses c sec r lines s course?).1, course.lines.length ≤ k := by
  induction lines generalizing s course? given with
  | nil => cases hfeed; exact ⟨⟨hst, hcur⟩, hs, rfl, by simp [courses]⟩
  | cons line lines ih =>
      obtain ⟨hline, hlines⟩ := List.forall_mem_cons.mp hlines
      obtain ⟨u, own, others, hfirst, hrest, rfl⟩ := feedAll_cons_ok hfeed
      obtain ⟨ended, next?, hturn, rfl⟩ :=
        turn_of_feed hkeeps hrules hmost hk hst hcur hs hline hfirst
      have hs' := hs.lineNo (s.lineNo + 1)
      have hfollow : follow c sec r (trimLineEnd line) s u course? = (ended, next?) :=
        hturn.follow_eq hs'
      obtain ⟨hstand, hstage⟩ := hturn.standing
      obtain ⟨htemplate, htoday, hcurrent, -⟩ := fields_of_standing hstand
      have htemplate : u.template = s.template := htemplate
      have htoday : u.today = s.today := htoday
      obtain ⟨hreads, hcounts, hgiven, hbound⟩ := ih (hstage.trans hst) (hcurrent.trans hcur)
        (hturn.counts hk hs') (by rwa [htemplate, htoday]) hrest
      simp only [courses, hfirst, hfollow, List.map_append, List.forall_mem_append]
      refine ⟨hreads, hcounts, ?_, hturn.length_le hs', hbound⟩
      rw [hgiven, htemplate]

/-- Where nothing is held, lines that say nothing are passed over. -/
theorem feedAll_silent {lines : List Text} (hkeeps : sec.removeDuplicates = false)
    (hst : s.stage = .table) (hcur : s.current = some sec) (hheld : s.held = none)
    (hlines : ∀ line ∈ lines, sec.IsInner s.template s.today (trimLineEnd line)
      ∧ sec.tells s.template s.today (trimLineEnd line) = .ok none) :
    ∃ header lineNo, s.feedAll (some c) lines = .ok ({ s with header, lineNo }, []) := by
  induction lines generalizing s with
  | nil => exact ⟨s.header, s.lineNo, rfl⟩
  | cons line lines ih =>
      obtain ⟨⟨hline, htells⟩, hlines⟩ := List.forall_mem_cons.mp hlines
      cases hread : sec.readRecord s.template s.today false (trimLineEnd line) s.header with
      | mk header result =>
          have hresult := parse_eq_tells c sec (trimLineEnd line) s
          rw [htells, parse, Option.isNone_some, hread] at hresult
          obtain rfl : result = .ok none := hresult
          have hfold :=
            foldLine_passes (c := c) (s := { s with lineNo := s.lineNo + 1 }) hheld hread
          have hfirst := feed_of_trimmed hst hcur hkeeps hline.full hline.inside hfold (by simp)
          obtain ⟨header', lineNo, hrest⟩ :=
            ih (s := { s with header, lineNo := s.lineNo + 1 }) hst hcur hheld hlines
          refine ⟨header', lineNo, ?_⟩
          rw [feedAll_cons _ hfirst, hrest]
          rfl

/-- In a table whose one additional rule has a bound, no movement is continued by more lines than
this. The line that reaches the bound gives the movement out, earlier ones do not, and behind it
lines that say nothing are passed over. A movement that begins is counted from zero. The bound is at
least one; zero stands for no bound. -/
theorem courses_bounded (c : Continuation) (sec : Section) (r : Rule) (k : Nat) (s t : Session)
    (lines : List Text) (given : List Movement) (hkeeps : sec.removeDuplicates = false)
    (hrules : sec.rulesOf .additional = [r]) (hmost : r.maxOccurrence = some (k : Int)) (hk : 1 ≤ k)
    (hst : s.stage = .table) (hcur : s.current = some sec) (hheld : s.held = none)
    (hlines : ∀ line ∈ lines, sec.IsInner s.template s.today (trimLineEnd line))
    (hfeed : s.feedAll (some c) lines = .ok (t, given)) :
    let ended := (courses c sec r lines s none).1
    let last? := (courses c sec r lines s none).2
    given = ended.map (·.movement s.template r)
      ∧ (∀ course ∈ ended, course.lines.length ≤ k)
      ∧ (t.endTable (some c)).2 = last?.toList.map (·.movement s.template r)
      ∧ (∀ course ∈ last?, course.lines.length < k)
      ∧ (∀ line u out, sec.IsInner s.template s.today (trimLineEnd line) →
        t.feed (some c) line = (u, .ok out) →
        (∀ m, t.begun (some c) sec (trimLineEnd line) = some m →
          u.held = none ∨ u.held = some m ∧ u.foldCount = 0)
        ∧ (t.takes c sec r (trimLineEnd line) = true →
          ∃ course, last? = some course
            ∧ let movement := (course.add (trimLineEnd line)).movement s.template r
              if course.lines.length + 1 = k then out = [movement] ∧ u.held = none
              else out = [] ∧ u.held = some movement))
      ∧ (t.held = none → ∀ further,
        (∀ line ∈ further, sec.IsInner s.template s.today (trimLineEnd line)
          ∧ sec.tells s.template s.today (trimLineEnd line) = .ok none) →
        ∃ header lineNo, t.feedAll (some c) further = .ok ({ t with header, lineNo }, [])) := by
  intro ended last?
  have htemplate := feedAll_template hfeed
  have htoday := feedAll_today hfeed
  obtain ⟨⟨hst', hcur'⟩, hcounts, hgiven, hbound⟩ :=
    counts_feedAll hkeeps hrules hmost hk hst hcur (counts_none hheld) hlines hfeed
  refine ⟨hgiven, hbound, ?_, hcounts.lt, fun line u out hline hnext => ?_, fun hnone further => ?_⟩
  · rw [endTable_of_keeps hcur' hkeeps, hcounts.held_eq, htemplate]
    exact Option.toList_map ..
  · rw [← htemplate, ← htoday] at hline
    obtain ⟨out', next?, hturn, rfl⟩ :=
      turn_of_feed hkeeps hrules hmost hk hst' hcur' hcounts hline hnext
    have hcounts' := hcounts.lineNo (t.lineNo + 1)
    rw [← htemplate]
    exact ⟨hturn.of_begun hcounts', hturn.of_takes⟩
  · rw [← htemplate, ← htoday]
    exact feedAll_silent hkeeps hst' hcur' hnone

end Session

/-! ## Movements of two lines more -/

def Rule.limitedName : Rule where
  pattern := .ofLiteral "^> (?P<SourceName>.*)"
  multiplier := 1
  role := .additional
  maxOccurrence := some 2

/-- Rows that begin with a date, of which two more lines may hold a name. -/
def Section.limited : Section where
  name := .ofString "Rows"
  kind := .table
  columns := [.primary "^(?P<PostingDate>\\d\\d\\.\\d\\d\\.\\d\x7b4\x7d) " 1, .rule .limitedName]

def Template.limited : Template where
  name := .ofString "Limited"
  source := .ofString "Text"
  sections := [.limited]

namespace Session

/-- The third line with a name is behind the movement, which has been given out with the second
one. -/
theorem courses_bounded_limited :
    let s := (start .limited ⟨2024, 12, 31, by decide⟩).enter .limited
    let lines := ["01.02.2024 x", "> Ann", "> Bob", "> Eve"].map (·.toList)
    (∀ line ∈ lines, Section.limited.IsInner s.template s.today (trimLineEnd line))
      ∧ (∃ t given, s.feedAll (some {}) lines = .ok (t, given)
        ∧ given = [{
          bookingDate := some ⟨2024, 2, 1, by decide⟩, counterparty := some "Ann Bob".toList }])
      ∧ ∀ course ∈ (courses {} .limited .limitedName lines s none).1, course.lines.length ≤ 2 := by
  intro s lines
  have hlines : ∀ line ∈ lines, Section.limited.IsInner s.template s.today (trimLineEnd line) := by
    decide +kernel
  have hgiven : (s.feedAll (some {}) lines).toOption.map (·.2) = some [{
      bookingDate := some ⟨2024, 2, 1, by decide⟩, counterparty := some "Ann Bob".toList }] := by
    decide +kernel
  cases hfeed : s.feedAll (some {}) lines with
  | error => rw [hfeed] at hgiven; cases hgiven
  | ok out =>
      obtain ⟨t, given⟩ := out
      rw [hfeed] at hgiven
      have hbounded := courses_bounded {} .limited .limitedName 2 s t lines given rfl rfl rfl
        (by decide) rfl rfl rfl hlines hfeed
      exact ⟨hlines, ⟨t, given, rfl, Option.some.inj hgiven⟩, hbounded.2.1⟩

end Session

end BankStatement
