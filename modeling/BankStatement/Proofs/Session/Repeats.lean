import BankStatement.Proofs.Decimal.Value
import BankStatement.Proofs.Session.HoldingBack

/-!
# Movements that repeat an earlier one

Some exports list a movement twice, and a section can be told to drop the second one. What that does
to a statement is told by the statement that is read when no section drops anything
(`Template.keepingRepeats`): its movements, section by section (`Template.readParts`), with those
taken out that repeat an earlier one of the same section (`run_eq_firsts`).

A session decides by the keys it has seen, which are those of the movements it has given out. They
are the keys of all earlier movements of the section, dropped or not (`Remembers`), for a movement
that is dropped has the key of one that is there already. What is read from a row does not depend on
them; so both readings go through the same rows and differ only in what they give out
(`rows_keepingRepeats`, `dynamicRows_keepingRepeats`).

The comparison is made on sections and not on sessions: by `Proofs.Session.Sections` a run is what
its sections read one after the other, and there the question has a small answer, one filter for
each section. `readParts` is `readSections` with the movements of the sections kept apart, since
being a repetition is a relation within a section and a concatenation would not show it. That
movements are compared by the value of their amounts and not by their spelling is
`Movement.key_eq_iff`, for which `Proofs.Decimal.Value` tells what the canonical form of a number
keeps.
-/

namespace BankStatement

/-- One movement is the like of another one. -/
def Movement.Repeats (m m' : Movement) : Prop :=
  m.bookingDate = m'.bookingDate ∧ m.valutaDate = m'.valutaDate
    ∧ m.amount.value = m'.amount.value ∧ m.subject = m'.subject
    ∧ m.counterparty = m'.counterparty ∧ m.postingDescription = m'.postingDescription

instance Movement.Repeats.decidable : DecidableRel Movement.Repeats :=
  fun _ _ => inferInstanceAs (Decidable (_ ∧ _))

/-- The keys of movements tell which of them are alike. -/
theorem Movement.key_eq_iff {m m' : Movement} : m.key = m'.key ↔ m.Repeats m' := by
  simp only [key, Repeats, MovementKey.mk.injEq, Decimal.canonical_eq_iff]

/-- The movements that repeat none before them, neither in their list nor among some earlier
ones. -/
def Movement.firsts : List Movement → List Movement → List Movement
  | _, [] => []
  | earlier, m :: ms =>
    if ∃ e ∈ earlier, m.Repeats e then firsts (m :: earlier) ms
    else m :: firsts (m :: earlier) ms

namespace Section

/-- A section that keeps repeated movements. -/
def keepingRepeats (sec : Section) : Section := { sec with removeDuplicates := false }

/-- What a section gives out of some movements when some others came earlier. -/
def letThrough (sec : Section) (earlier ms : List Movement) : List Movement :=
  if sec.removeDuplicates then Movement.firsts earlier ms else ms

theorem letThrough_nil (sec : Section) (earlier : List Movement) :
    sec.letThrough earlier [] = [] := by
  unfold letThrough
  split <;> rfl

theorem letThrough_append (sec : Section) (earlier : List Movement) (m? : Option Movement)
    (ms : List Movement) :
    sec.letThrough earlier (m?.toList ++ ms)
      = sec.letThrough earlier m?.toList ++ sec.letThrough (m?.toList ++ earlier) ms := by
  unfold letThrough
  split
  · cases m? with
    | none => rfl
    | some m =>
        simp only [Option.toList_some, List.cons_append, List.nil_append, Movement.firsts]
        split <;> rfl
  · rfl

end Section

namespace Template

/-- A template of which no section drops repeated movements. -/
def keepingRepeats (template : Template) : Template :=
  template.withSections (template.sections.map Section.keepingRepeats)

/-- Reads sections in order, and keeps apart what each of them gives. -/
def readParts (policy : Option Continuation) (template : Template) (today : Date) :
    List Section → List Text → Header → Except Fault (Header × List (List Movement))
  | [], _, header => .ok (header, [])
  | sec :: secs, lines, header =>
    match sec.read policy template today lines header with
    | .error fault => .error fault
    | .ok part =>
      (readParts policy template today secs part.rest part.header).map
        fun read => (read.1, part.movements :: read.2)

variable {policy : Option Continuation} {template : Template} {today : Date} {secs : List Section}
  {lines : List Text} {header : Header}

theorem readSections_eq_readParts :
    template.readSections policy today secs lines header
      = (template.readParts policy today secs lines header).map
        fun read => ⟨read.1, read.2.flatten⟩ := by
  induction secs generalizing lines header with
  | nil => rfl
  | cons sec secs ih =>
      unfold readSections readParts
      cases sec.read policy template today lines header with
      | error => rfl
      | ok part =>
          simp only [ih]
          cases template.readParts policy today secs part.rest part.header <;> rfl

theorem length_of_readParts {read : Header × List (List Movement)}
    (h : template.readParts policy today secs lines header = .ok read) :
    read.2.length = secs.length := by
  induction secs generalizing lines header read with
  | nil => cases h; rfl
  | cons sec secs ih =>
      unfold readParts at h
      split at h
      · cases h
      next part _ =>
        cases hrest : template.readParts policy today secs part.rest part.header with
        | error => rw [hrest] at h; cases h
        | ok read' =>
            rw [hrest] at h
            cases h
            exact congrArg (· + 1) (ih hrest)

end Template

namespace Session

variable {sec : Section} {s : Session} {earlier : List Movement}

/-- A session in which no section drops repeated movements. -/
def keepingRepeats (s : Session) : Session :=
  { s with
    template := s.template.keepingRepeats
    current := s.current.map Section.keepingRepeats
    seen := [] }

/-! ## Giving out -/

/-- A session reads a section of which some movements came earlier: their keys are those it has
seen. -/
structure Remembers (sec : Section) (earlier : List Movement) (s : Session) : Prop where
  current_eq : s.current = some sec
  seen_iff : sec.removeDuplicates = true →
    ∀ m : Movement, m.key ∈ s.seen ↔ ∃ e ∈ earlier, m.Repeats e

theorem Remembers.of_stays {t : Session} (hs : Remembers sec earlier s) (h : t.amid s = t) :
    Remembers sec earlier t := by
  rw [← h]
  exact ⟨hs.current_eq, hs.seen_iff⟩

/-- Every movement is given out if no section drops any. -/
theorem emit?_keepingRepeats (s : Session) (m? : Option Movement) :
    s.keepingRepeats.emit? m? = (s.keepingRepeats, m?.toList) := by
  have hkeeps : (s.keepingRepeats.current.map (·.removeDuplicates)).getD false = false := by
    simp only [keepingRepeats, Option.map_map]
    cases s.current <;> rfl
  cases m? with
  | none => rfl
  | some m => simp [emit?, emit, hkeeps]

/-- What a session has given out does not matter where no section drops any movement. -/
theorem keepingRepeats_emit? (s : Session) (m? : Option Movement) :
    (s.emit? m?).1.keepingRepeats = s.keepingRepeats := by
  cases hemit : s.emit? m? with
  | mk t given =>
      obtain ⟨⟨seen, rfl⟩, -, -⟩ := emit?_eq hemit
      rfl

/-- A movement is given out unless it repeats an earlier one. -/
theorem Remembers.emit? (hs : Remembers sec earlier s) (m? : Option Movement) :
    (s.emit? m?).2 = sec.letThrough earlier m?.toList
      ∧ Remembers sec (m?.toList ++ earlier) (s.emit? m?).1 := by
  cases m? with
  | none => exact ⟨(sec.letThrough_nil earlier).symm, hs⟩
  | some m =>
      cases hdrop : sec.removeDuplicates with
      | false =>
          have hemit : s.emit? (some m) = (s, [m]) := by
            simp [Session.emit?, emit, hs.current_eq, hdrop]
          rw [hemit]
          exact ⟨by simp [Section.letThrough, hdrop], hs.current_eq, by simp [hdrop]⟩
      | true =>
          have hseen := hs.seen_iff hdrop
          have hcontains : s.seen.contains m.key = true ↔ ∃ e ∈ earlier, m.Repeats e := by
            rw [List.contains_iff_mem, hseen]
          simp only [Session.emit?, emit, hs.current_eq, hdrop, Option.map_some,
            Option.getD_some, if_true, Section.letThrough, Option.toList_some, Movement.firsts]
          by_cases hrepeats : ∃ e ∈ earlier, m.Repeats e
          · rw [if_pos (hcontains.mpr hrepeats), if_pos hrepeats]
            refine ⟨rfl, hs.current_eq, fun _ m' => ?_⟩
            -- a dropped movement is the like of one whose key has been seen
            obtain ⟨e, he, hme⟩ := hrepeats
            simp only [hseen, List.mem_append, List.mem_singleton]
            constructor
            · rintro ⟨e', he', hrepeat⟩
              exact ⟨e', .inr he', hrepeat⟩
            · rintro ⟨e', rfl | he', hrepeat⟩
              · rw [← Movement.key_eq_iff] at hrepeat hme
                exact ⟨e, he, Movement.key_eq_iff.mp (hrepeat.trans hme)⟩
              · exact ⟨e', he', hrepeat⟩
          · rw [if_neg (mt hcontains.mp hrepeats), if_neg hrepeats]
            exact ⟨rfl, rfl, fun _ m' => by simp [hseen, Movement.key_eq_iff]⟩

/-! ## The rows of a section -/

end Session

/-- The part that a section gives out when some movements came earlier. -/
def Part.letThrough (sec : Section) (earlier : List Movement) (p : Part) : Part :=
  { p with movements := sec.letThrough earlier p.movements }

namespace Session

variable {policy : Option Continuation} {sec : Section} {lines : List Text} {s : Session}
  {earlier : List Movement}

theorem tableLine_keepingRepeats (policy : Option Continuation) (sec : Section) (line : Text)
    (s : Session) :
    s.keepingRepeats.tableLine policy sec.keepingRepeats line
      = ((s.tableLine policy sec line).1.keepingRepeats, (s.tableLine policy sec line).2) := by
  have hsec : s.keepingRepeats.tableLine policy sec.keepingRepeats line
      = s.keepingRepeats.tableLine policy sec line := by
    cases policy <;> rfl
  rw [hsec, ← tableLine_stays policy sec line s]
  exact tableLine_amid policy sec line s s.keepingRepeats

theorem dynamicLine_keepingRepeats (policy : Option Continuation) (sec : Section) (line : Text)
    (s : Session) :
    s.keepingRepeats.dynamicLine policy sec.keepingRepeats line
      = ((s.dynamicLine policy sec line).1.keepingRepeats, (s.dynamicLine policy sec line).2) := by
  have hsec : s.keepingRepeats.dynamicLine policy sec.keepingRepeats line
      = s.keepingRepeats.dynamicLine policy sec line := rfl
  rw [hsec, ← dynamicLine_stays policy sec line s]
  exact dynamicLine_amid policy sec line s s.keepingRepeats

theorem close_keepingRepeats (hs : Remembers sec earlier s) (left : List Text) :
    s.close left = (s.keepingRepeats.close left).letThrough sec earlier := by
  have hheld : s.keepingRepeats.held = s.held := rfl
  rw [close, close, (hs.emit? s.held).1, hheld, emit?_keepingRepeats]
  rfl

/-- What a row gives out, in front of what the rows behind it give. -/
theorem after_emit? {result : Except Fault Part} (hs : Remembers sec earlier s)
    (m? : Option Movement) :
    (result.map (·.letThrough sec (m?.toList ++ earlier))).map (·.after (s.emit? m?).2)
      = (result.map (·.after m?.toList)).map (·.letThrough sec earlier) := by
  cases result with
  | error => rfl
  | ok part =>
      simp only [Except.map, Part.after, Part.letThrough, sec.letThrough_append, (hs.emit? m?).1]

theorem rows_keepingRepeats (hs : Remembers sec earlier s) :
    s.rows policy sec lines
      = (s.keepingRepeats.rows policy sec.keepingRepeats lines).map (·.letThrough sec earlier) := by
  induction lines generalizing s earlier with
  | nil => exact congrArg Except.ok (close_keepingRepeats hs [])
  | cons line lines ih =>
      have hends : sec.keepingRepeats.endsAt line = sec.endsAt line := rfl
      unfold rows
      rw [hends, tableLine_keepingRepeats]
      split
      · exact congrArg Except.ok (close_keepingRepeats hs lines)
      split
      · exact congrArg Except.ok (close_keepingRepeats hs (line :: lines))
      have ht := hs.of_stays (tableLine_stays policy sec line s)
      cases hrow : s.tableLine policy sec line with
      | mk t result =>
          rw [hrow] at ht
          cases result with
          | error => rfl
          | ok m? =>
              simp only
              split
              · exact congrArg Except.ok (close_keepingRepeats ht (line :: lines))
              · rw [ih (ht.emit? m?).2, keepingRepeats_emit?, emit?_keepingRepeats,
                  after_emit? ht]

theorem dynamicRows_keepingRepeats (hs : Remembers sec earlier s) :
    s.dynamicRows policy sec lines
      = (s.keepingRepeats.dynamicRows policy sec.keepingRepeats lines).map
        (·.letThrough sec earlier) := by
  induction lines generalizing s earlier with
  | nil => exact congrArg Except.ok (close_keepingRepeats hs [])
  | cons line lines ih =>
      have hends : sec.keepingRepeats.endsAt line = sec.endsAt line := rfl
      unfold dynamicRows
      rw [hends, dynamicLine_keepingRepeats]
      split
      · exact congrArg Except.ok (close_keepingRepeats hs (line :: lines))
      have ht := hs.of_stays (dynamicLine_stays policy sec line s)
      cases hrow : s.dynamicLine policy sec line with
      | mk t result =>
          rw [hrow] at ht
          cases result with
          | error => rfl
          | ok m? =>
              simp only
              rw [ih (ht.emit? m?).2, keepingRepeats_emit?, emit?_keepingRepeats, after_emit? ht]

end Session

/-! ## The sections of a template -/

section

variable {policy : Option Continuation} {template : Template} {today : Date} {sec : Section}
  {secs : List Section} {lines : List Text} {header : Header}

theorem readLabels_keepingRepeats :
    sec.readLabels template lines header
      = (sec.keepingRepeats.readLabels template.keepingRepeats lines header).map
        (·.letThrough sec []) := by
  induction lines generalizing header with
  | nil => simp [Section.readLabels, Except.map, Part.letThrough, Section.letThrough_nil]
  | cons line lines ih =>
      have hends : sec.keepingRepeats.endsAt line = sec.endsAt line := rfl
      have hread : sec.keepingRepeats.readKeyValue template.keepingRepeats line header
          = sec.readKeyValue template line header := sec.readKeyValue_withSections line header
      unfold Section.readLabels
      rw [hends, hread]
      split
      · simp [Except.map, Part.letThrough, Section.letThrough_nil]
      · split
        · rfl
        · exact ih

theorem remembers_desk (sec : Section) (template : Template) (today : Date) (header : Header) :
    Session.Remembers sec [] (sec.desk template today header) :=
  ⟨rfl, fun _ m => by simp [Section.desk]⟩

theorem read_keepingRepeats :
    sec.read policy template today lines header
      = (sec.keepingRepeats.read policy template.keepingRepeats today lines header).map
        (·.letThrough sec []) := by
  have hkind : sec.keepingRepeats.kind = sec.kind := rfl
  unfold Section.read
  rw [hkind]
  cases sec.kind with
  | ignore =>
      have hpass : sec.keepingRepeats.passOver lines = sec.passOver lines := by
        induction lines with
        | nil => rfl
        | cons line lines ih => simp only [Section.passOver, ih]; rfl
      simp [Except.map, Part.letThrough, Section.letThrough_nil, hpass]
  | keyValue => exact readLabels_keepingRepeats
  | table => exact Session.rows_keepingRepeats (remembers_desk sec template today header)
  | dynamicTable =>
      exact Session.dynamicRows_keepingRepeats (remembers_desk sec template today header)

theorem readParts_keepingRepeats :
    template.readParts policy today secs lines header
      = (template.keepingRepeats.readParts policy today (secs.map Section.keepingRepeats) lines
        header).map fun read => (read.1, List.zipWith (·.letThrough []) secs read.2) := by
  induction secs generalizing lines header with
  | nil => rfl
  | cons sec secs ih =>
      rw [List.map_cons]
      unfold Template.readParts
      rw [read_keepingRepeats]
      cases sec.keepingRepeats.read policy template.keepingRepeats today lines header with
      | error => rfl
      | ok part =>
          simp only [Except.map, Part.letThrough]
          rw [ih]
          cases template.keepingRepeats.readParts policy today (secs.map Section.keepingRepeats)
            part.rest part.header <;> rfl

end

namespace Session

theorem run_eq_readParts (template : Template) (policy : Option Continuation) (today : Date)
    (lines : List Text) :
    template.run policy today lines
      = (template.readParts policy today template.sections (lines.map trimLineEnd) {}).map
        fun read => ⟨read.1, read.2.flatten⟩ := by
  rw [run_follows, Template.readSections_eq_readParts]

/-- Sections that drop repeated movements change nothing but that: the statement is the one that is
read when none does, with the same header or the same fault, and of each section that drops repeated
movements those are left out that are the like of an earlier one of this section. The parts are
those that the sections give when none drops any, one for each section, so that pairing them with
the sections leaves none out. -/
theorem run_eq_firsts (template : Template) (policy : Option Continuation) (today : Date)
    (lines : List Text) :
    let parts := template.keepingRepeats.readParts policy today template.keepingRepeats.sections
      (lines.map trimLineEnd) {}
    template.keepingRepeats.run policy today lines
        = parts.map (fun read => ⟨read.1, read.2.flatten⟩)
      ∧ template.run policy today lines
        = parts.map (fun read =>
          ⟨read.1, (List.zipWith (·.letThrough []) template.sections read.2).flatten⟩)
      ∧ ∀ read, parts = .ok read → read.2.length = template.sections.length := by
  intro parts
  refine ⟨run_eq_readParts .., ?_, fun read hread => ?_⟩
  · rw [run_eq_readParts, readParts_keepingRepeats]
    show (parts.map _).map _ = parts.map _
    cases parts <;> rfl
  · have hlength := Template.length_of_readParts hread
    rwa [Template.keepingRepeats, Template.withSections, List.length_map] at hlength

/-- Two amounts of five are alike however they are written, and the second table has a movement of
its own. -/
theorem run_eq_firsts_postings :
    let lines := ["01.02.2024 5,00", "01.02.2024 5,0", "Reserved", "01.02.2024 5,00"].map (·.toList)
    let posting : Movement :=
      { bookingDate := some ⟨2024, 2, 1, by decide⟩, amount := ⟨false, 500, -2⟩ }
    let again : Movement := { posting with amount := ⟨false, 50, -1⟩ }
    let parts := Template.postings.keepingRepeats.readParts none ⟨2024, 12, 31, by decide⟩
      Template.postings.keepingRepeats.sections (lines.map trimLineEnd) {}
    parts = .ok ({}, [[posting, again], [posting]])
      ∧ Template.postings.run none ⟨2024, 12, 31, by decide⟩ lines = .ok ⟨{}, [posting, posting]⟩
      ∧ [[posting, again], [posting]].length = Template.postings.sections.length := by
  intro lines posting again parts
  have hparts : parts = .ok ({}, [[posting, again], [posting]]) := by
    have hread : parts.toOption = some ({}, [[posting, again], [posting]]) := by decide +kernel
    cases h : parts with
    | error => rw [h] at hread; cases hread
    | ok read => rw [h] at hread; cases hread; rfl
  have hrepeats : again.Repeats posting := Movement.key_eq_iff.mp (by decide)
  obtain ⟨-, hrun, hlength⟩ := run_eq_firsts Template.postings none ⟨2024, 12, 31, by decide⟩ lines
  refine ⟨hparts, ?_, hlength _ hparts⟩
  rw [hrun]
  show parts.map _ = _
  rw [hparts]
  simp [Except.map, Template.postings, Section.letThrough, Movement.firsts, hrepeats]

end Session

end BankStatement
