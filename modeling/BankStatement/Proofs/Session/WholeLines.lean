import BankStatement.Proofs.Session.Sections
import BankStatement.Proofs.Text.Splitting
import BankStatement.Proofs.Text.Trimming

/-!
# Statements of whole lines

Lines that come without their ends are read by the sections of a template as they are
(`run_of_isLine`). A section that is passed over goes through the lines before its keyword
(`passOver_append`), and a table without policy that keeps duplicates gives out what each line holds
(`rows_of_readRecord`).

These are the steps by which an export is read as a whole: its lines are known block by block, each
block is taken by one section, and what the section leaves is the next block. The step for tables is
an induction over items and not over lines. The caller names for every item its line and what the
line holds, which may be nothing, and gets the movements of all items by one `filterMap`.
-/

namespace BankStatement

variable {policy : Option Continuation} {template : Template} {today : Date} {sec : Section}
  {lines : List Text} {header : Header}

theorem trimLineEnd_of_isLine {line : Text} (h : Text.IsLine line) :
    Session.trimLineEnd line = line := by
  have hend : ∀ c ∈ line.getLast?, (c == '\r' || c == '\n') = false := by
    intro c hc
    have hmem := List.mem_of_getLast? hc
    have hr : c ≠ '\r' := ne_of_mem_of_not_mem hmem h.1
    have hn : c ≠ '\n' := ne_of_mem_of_not_mem hmem h.2
    simp [hr, hn]
  exact Text.dropRightWhile_of_last hend

theorem run_of_isLine (policy : Option Continuation) (template : Template) (today : Date)
    (h : ∀ line ∈ lines, Text.IsLine line) :
    template.run policy today lines
      = template.readSections policy today template.sections lines {} := by
  have htrim : lines.map Session.trimLineEnd = lines :=
    (List.map_congr_left fun line hline => trimLineEnd_of_isLine (h line hline)).trans
      (List.map_id _)
  rw [Session.run_follows, htrim]

theorem readSections_cons {secs : List Section} {part : Part}
    (h : sec.read policy template today lines header = .ok part) :
    template.readSections policy today (sec :: secs) lines header
      = (template.readSections policy today secs part.rest part.header).map
        (·.after part.movements) := by
  rw [Template.readSections, h]

theorem read_of_ignore (hkind : sec.kind = .ignore) (policy : Option Continuation)
    (template : Template) (today : Date) (lines : List Text) (header : Header) :
    sec.read policy template today lines header = .ok ⟨header, [], sec.passOver lines⟩ := by
  rw [Section.read, hkind]

/-- Lines with text and without a keyword are passed over. -/
theorem passOver_append
    (h : ∀ line ∈ lines, Text.isBlankText line = false ∧ sec.endsAt line = false)
    (rest : List Text) : sec.passOver (lines ++ rest) = sec.passOver rest := by
  induction lines with
  | nil => rfl
  | cons line lines ih =>
      obtain ⟨⟨hblank, hend⟩, hlines⟩ := List.forall_mem_cons.mp h
      rw [List.cons_append, Section.passOver, hblank, hend]
      exact ih hlines

/-- Without a policy each line gives out what it holds and leaves the session as it was. -/
theorem rows_of_readRecord {ι : Type} {s : Session} (hcurrent : s.current = some sec)
    (hkeep : sec.removeDuplicates = false) {line : ι → Text} {outcome : ι → Option Movement}
    {items : List ι} (hline : ∀ i ∈ items, Text.isBlankText (line i) = false
      ∧ sec.endsAt (line i) = false)
    (hread : ∀ i ∈ items,
      sec.readRecord s.template s.today true (line i) s.header = (s.header, .ok (outcome i)))
    (hsound : ∀ i ∈ items, ∀ m ∈ outcome i, m.isError = false) (rest : List Text) :
    s.rows none sec (items.map line ++ rest)
      = (s.rows none sec rest).map (·.after (items.filterMap outcome)) := by
  induction items with
  | nil =>
      rw [List.map_nil, List.nil_append, List.filterMap_nil]
      cases s.rows none sec rest <;> rfl
  | cons i items ih =>
      obtain ⟨⟨hblank, hend⟩, hline⟩ := List.forall_mem_cons.mp hline
      obtain ⟨hfirst, hread⟩ := List.forall_mem_cons.mp hread
      obtain ⟨hno, hsound⟩ := List.forall_mem_cons.mp hsound
      have htable : s.tableLine none sec (line i) = (s, .ok (outcome i)) := by
        simp only [Session.tableLine, hfirst]
      have hemit : s.emit? (outcome i) = (s, (outcome i).toList) := by
        cases outcome i with
        | none => rfl
        | some m => simp [Session.emit?, Session.emit, hcurrent, hkeep]
      have hfine : (outcome i).any (·.isError) = false := by
        cases hm : outcome i with
        | none => rfl
        | some m => exact hno m hm
      rw [List.map_cons, List.cons_append, Session.rows, hblank, hend, htable]
      simp only [Bool.false_eq_true, if_false, hfine, hemit, ih hline hread hsound]
      cases houtcome : outcome i <;> cases s.rows none sec rest <;>
        simp [Except.map, Part.after, houtcome]

end BankStatement
