import BankStatement.Session.Run

/-!
# Reading section by section

What a statement says, without a machine that is fed lines: the sections of a template are taken in
order, each reads from the lines that the ones before it have left, and leaves the rest to the ones
after it. `Section.read` says for every kind of section where it stops and who owns the line that
stops it; `Template.readSections` goes through the sections. This is the meaning that
`Proofs.Session.Sections` compares a session with, and the form in which whole statements are read
in the proofs about banks.

A section knows nothing of the sections before it but the header. So the rows of a table are read by
a session of their own (`desk`), of which only the header, the held movement and the keys seen
matter. Rows use the same functions for one line as a session does, since what one line says is not
in question here; which lines are read as rows, and what becomes of the movement that is held when
they end, is written anew.

The two ways in which a section stops are kept apart by the part's rest: a line that is used up is
not in it, a line that is left is its first one. `rest_suffix_of_read` says that the rest is in any
case the end of the lines given, so no line is invented, moved or looked at again by a section that
has used it up. Where no line is left all sections agree to say nothing (`read_nil`), which is why a
statement may end in the middle of a template.
-/

namespace BankStatement

/-- What a section makes of the lines it is given. -/
structure Part where
  header : Header
  movements : List Movement
  /-- The lines that it leaves. -/
  rest : List Text
  deriving DecidableEq, Repr

/-- A part with the movements that were given out before. -/
def Part.after (given : List Movement) (p : Part) : Part :=
  { p with movements := given ++ p.movements }

/-- A statement with the movements that were given out before. -/
def Statement.after (given : List Movement) (s : Statement) : Statement :=
  { s with movements := given ++ s.movements }

namespace Section

/-- Passes lines over, up to a blank one, which is used up, or one with an end keyword, which is
left. -/
def passOver (sec : Section) : List Text → List Text
  | [] => []
  | line :: lines =>
    if Text.isBlankText line then lines
    else if sec.endsAt line then line :: lines
    else passOver sec lines

/-- Looks up the labels of the lines up to a blank one or one with an end keyword, which is used
up. -/
def readLabels (sec : Section) (template : Template) : List Text → Header → Except Fault Part
  | [], header => .ok ⟨header, [], []⟩
  | line :: lines, header =>
    if Text.isBlankText line || sec.endsAt line then .ok ⟨header, [], lines⟩
    else
      match sec.readKeyValue template line header with
      | (_, .error fault) => .error fault
      | (header, .ok ()) => readLabels sec template lines header

end Section

namespace Session

/-- Stops reading rows: what is held is given out. -/
def close (s : Session) (rest : List Text) : Part := ⟨s.header, (s.emit? s.held).2, rest⟩

/-- Reads the rows of a table, up to a blank line, which is used up, or one with an end keyword or
one that stops the table as it cannot be read, which are left. -/
def rows (policy : Option Continuation) (sec : Section) : List Text → Session → Except Fault Part
  | [], s => .ok (s.close [])
  | line :: lines, s =>
    if Text.isBlankText line then .ok (s.close lines)
    else if sec.endsAt line then .ok (s.close (line :: lines))
    else
      match s.tableLine policy sec line with
      | (_, .error fault) => .error fault
      | (s, .ok m?) =>
        if m?.any (·.isError) then .ok (s.close (line :: lines))
        else
          let (s, given) := s.emit? m?
          (rows policy sec lines s).map (·.after given)

/-- Reads the rows of a dynamic table, up to a line with an end keyword, which is left. -/
def dynamicRows (policy : Option Continuation) (sec : Section) :
    List Text → Session → Except Fault Part
  | [], s => .ok (s.close [])
  | line :: lines, s =>
    if sec.endsAt line then .ok (s.close (line :: lines))
    else
      match s.dynamicLine policy sec line with
      | (_, .error fault) => .error fault
      | (s, .ok m?) =>
        let (s, given) := s.emit? m?
        (dynamicRows policy sec lines s).map (·.after given)

end Session

namespace Section

/-- The session that reads the rows of a section. -/
def desk (sec : Section) (template : Template) (today : Date) (header : Header) : Session :=
  { template, today, header, current := some sec }

/-- Reads a section from the lines that are left. A table with column headings passes its first line
over. -/
def read (policy : Option Continuation) (template : Template) (today : Date) (sec : Section)
    (lines : List Text) (header : Header) : Except Fault Part :=
  match sec.kind with
  | .ignore => .ok ⟨header, [], sec.passOver lines⟩
  | .keyValue => sec.readLabels template lines header
  | .table =>
    (sec.desk template today header).rows policy sec
      (if sec.containsHeader then lines.drop 1 else lines)
  | .dynamicTable => (sec.desk template today header).dynamicRows policy sec lines

end Section

namespace Template

/-- Reads sections in order, each from what the ones before it have left. -/
def readSections (policy : Option Continuation) (template : Template) (today : Date) :
    List Section → List Text → Header → Except Fault Statement
  | [], _, header => .ok ⟨header, []⟩
  | sec :: secs, lines, header =>
    match sec.read policy template today lines header with
    | .error fault => .error fault
    | .ok part =>
      (readSections policy template today secs part.rest part.header).map (·.after part.movements)

end Template

/-! ## What is left -/

variable {policy : Option Continuation} {template : Template} {today : Date} {sec : Section}
  {lines : List Text} {header : Header} {s : Session} {part : Part}

theorem passOver_suffix (sec : Section) (lines : List Text) : sec.passOver lines <:+ lines := by
  induction lines with
  | nil => exact List.suffix_refl _
  | cons line lines ih =>
      unfold Section.passOver
      split
      · exact List.suffix_cons line lines
      · split
        · exact List.suffix_refl _
        · exact ih.trans (List.suffix_cons line lines)

theorem readLabels_suffix (h : sec.readLabels template lines header = .ok part) :
    part.rest <:+ lines := by
  induction lines generalizing header with
  | nil => cases h; exact List.suffix_refl _
  | cons line lines ih =>
      unfold Section.readLabels at h
      split at h
      · cases h; exact List.suffix_cons line lines
      · split at h
        · cases h
        · exact (ih h).trans (List.suffix_cons line lines)

/-- Movements given out before do not change what is left. -/
theorem rest_of_after {given : List Movement} {result : Except Fault Part}
    (h : result.map (·.after given) = .ok part) :
    ∃ part', result = .ok part' ∧ part.rest = part'.rest := by
  cases result with
  | error => cases h
  | ok part' => cases h; exact ⟨part', rfl, rfl⟩

theorem rows_suffix (h : s.rows policy sec lines = .ok part) : part.rest <:+ lines := by
  induction lines generalizing s part with
  | nil => cases h; exact List.suffix_refl _
  | cons line lines ih =>
      unfold Session.rows at h
      split at h
      · cases h; exact List.suffix_cons line lines
      · split at h
        · cases h; exact List.suffix_refl _
        · split at h
          · cases h
          · split at h
            · cases h; exact List.suffix_refl _
            · obtain ⟨part', hrest, hpart⟩ := rest_of_after h
              rw [hpart]
              exact (ih hrest).trans (List.suffix_cons line lines)

theorem dynamicRows_suffix (h : s.dynamicRows policy sec lines = .ok part) :
    part.rest <:+ lines := by
  induction lines generalizing s part with
  | nil => cases h; exact List.suffix_refl _
  | cons line lines ih =>
      unfold Session.dynamicRows at h
      split at h
      · cases h; exact List.suffix_refl _
      · split at h
        · cases h
        · obtain ⟨part', hrest, hpart⟩ := rest_of_after h
          rw [hpart]
          exact (ih hrest).trans (List.suffix_cons line lines)

/-- What a section leaves is the end of what it was given, for every kind of section and without any
assumption. So a template goes through the lines once, from the first to the last. -/
theorem rest_suffix_of_read (h : sec.read policy template today lines header = .ok part) :
    part.rest <:+ lines := by
  unfold Section.read at h
  split at h
  · cases h; exact passOver_suffix sec lines
  · exact readLabels_suffix h
  · split at h
    · exact (rows_suffix h).trans (List.drop_suffix 1 lines)
    · exact rows_suffix h
  · exact dynamicRows_suffix h

/-! ## No lines -/

/-- Where no line is left, a section has nothing to say. -/
theorem read_nil (policy : Option Continuation) (template : Template) (today : Date)
    (sec : Section) (header : Header) :
    sec.read policy template today [] header = .ok ⟨header, [], []⟩ := by
  unfold Section.read
  split
  · rfl
  · rfl
  · split <;> rfl
  · rfl

theorem readSections_nil (policy : Option Continuation) (template : Template) (today : Date)
    (secs : List Section) (header : Header) :
    template.readSections policy today secs [] header = .ok ⟨header, []⟩ := by
  induction secs with
  | nil => rfl
  | cons sec secs ih =>
      rw [Template.readSections, read_nil]
      simp only [ih]
      rfl

end BankStatement
