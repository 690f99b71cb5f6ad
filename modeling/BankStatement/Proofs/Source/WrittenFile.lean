import BankStatement.Proofs.Source.UnicodeFile

/-!
# Text files that were written

Lines are written to a file in UTF-8, with or without a byte order mark and with any line end. Such
a file is text (`isText_written`), and reading it gives the lines (`readLines_written`), whatever
encoding is named for files that are not Unicode: the first character is one of ASCII, so the file
starts with no mark but its own.

This is the form in which banks write the exports that are read back in
`Proofs.Bank.IngExportReading`. A file without a mark counts as text when it is UTF-8 without a null
byte, which is why its lines must not hold the null character; `IsFileLine` asks for that in
addition to being a line. Files in UTF-16 are told by their mark, null bytes or not, and are left to
`Proofs.Source.UnicodeFile`.
-/

namespace BankStatement.TextFile

open Text (Newline IsLine joinWith)

/-- A line of a text file: no line end and no null character. -/
def IsFileLine (t : Text) : Prop := IsLine t ∧ Char.ofNat 0 ∉ t

instance (t : Text) : Decidable (IsFileLine t) :=
  inferInstanceAs (Decidable (IsLine t ∧ Char.ofNat 0 ∉ t))

def written (marked : Bool) (newline : Newline) (lines : List Text) : Bytes :=
  (if marked then Utf8.mark else []) ++ Utf8.encode (joinWith newline.text lines)

def StartsAscii (t : Text) : Prop := ∃ c ∈ t.head?, c.toNat < 0x80

theorem mem_joinWith {separator : Text} {c : Char} {lines : List Text}
    (h : c ∈ joinWith separator lines) : c ∈ separator ∨ ∃ line ∈ lines, c ∈ line := by
  induction lines with
  | nil => cases h
  | cons line lines ih =>
      cases lines with
      | nil => exact .inr ⟨line, List.mem_cons_self, by simpa [joinWith] using h⟩
      | cons next lines =>
          rw [Text.joinWith_cons separator line (List.cons_ne_nil next lines), List.mem_append,
            List.mem_append] at h
          rcases h with (h | h) | h
          · exact .inr ⟨line, List.mem_cons_self, h⟩
          · exact .inl h
          · refine (ih h).imp id ?_
            rintro ⟨l, hl, hc⟩
            exact ⟨l, List.mem_cons_of_mem line hl, hc⟩

section

variable {marked : Bool} {newline : Newline} {line : Text} {lines : List Text}

theorem StartsAscii.ne_nil (h : StartsAscii line) : line ≠ [] := by
  rintro rfl
  obtain ⟨c, hc, -⟩ := h
  cases hc

theorem StartsAscii.head?_ne (h : StartsAscii line) : line.head? ≠ some markChar := by
  obtain ⟨c, hc, hascii⟩ := h
  intro hmark
  rw [Option.mem_def, hmark] at hc
  obtain rfl := Option.some.inj hc
  exact absurd hascii (by decide)

theorem written_eq (marked : Bool) (newline : Newline) (lines : List Text) :
    written marked newline lines
      = (if marked then Form.utf8Marked else Form.utf8).encode (joinWith newline.text lines) := by
  cases marked <;> rfl

theorem readLines_written (hascii : StartsAscii line)
    (hlines : ∀ l ∈ line :: lines, IsFileLine l) (fallback : Text) :
    readLines fallback (some (written marked newline (line :: lines))) = .ok (line :: lines) := by
  have hback : Text.lines (joinWith newline.text (line :: lines)) = line :: lines :=
    Text.lines_joinWith newline (List.cons_ne_nil line lines) fun l hl => (hlines l hl).1
  have hhead : (joinWith newline.text (line :: lines)).head? ≠ some markChar :=
    head?_lines fun first hfirst => Option.some.inj hfirst ▸ hascii.head?_ne
  rw [readLines, written_eq, decode_encode _ (fun _ => hhead), Except.map, hback]

theorem isText_written (hascii : StartsAscii line) (hlines : ∀ l ∈ line :: lines, IsFileLine l) :
    isText (some (written marked newline (line :: lines))) = true := by
  have hread := Utf8.decode?_encode (joinWith newline.text (line :: lines))
  have hnull : Char.ofNat 0 ∉ joinWith newline.text (line :: lines) := by
    intro hmem
    rcases mem_joinWith hmem with hmem | ⟨l, hl, hmem⟩
    · cases newline <;> exact absurd hmem (by decide)
    · exact (hlines l hl).2 hmem
  have hcontains : (Utf8.encode (joinWith newline.text (line :: lines))).contains 0 = false := by
    rw [Bool.eq_false_iff, ne_eq, List.contains_iff_mem]
    exact Utf8.zero_notMem_encode hnull
  have hempty : (Utf8.encode (joinWith newline.text (line :: lines))).isEmpty = false := by
    rw [Bool.eq_false_iff, ne_eq, List.isEmpty_iff]
    intro hnone
    rw [hnone] at hread
    have hjoined : [] = joinWith newline.text (line :: lines) := Option.some.inj hread
    have hline : line <:+: [] := hjoined ▸ Text.infix_joinWith List.mem_cons_self
    exact hascii.ne_nil (List.infix_nil.mp hline)
  cases marked with
  | true => rfl
  | false =>
      rw [written, if_neg Bool.false_ne_true, List.nil_append, isText, hempty, hcontains, hread,
        Option.isSome_some, Bool.not_false, Bool.true_and, Bool.true_and, Bool.or_true]

end

end BankStatement.TextFile
