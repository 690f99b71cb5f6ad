import BankStatement.Proofs.Source.Utf16
import BankStatement.Proofs.Text.Splitting
import BankStatement.Source.TextFile

/-!
# Text files in Unicode

Lines are written to a file in one of four forms: UTF-8 with or without a byte order mark, or UTF-16
behind one, with either order of the bytes. Each form is told apart from the others by its first
bytes: nothing that is written in UTF-8 starts like UTF-16 (`splitMark?_encode`), and what starts
with the mark of UTF-8 is a text that starts with the mark's character (`dropMark_encode`). So a
file gives back the text (`decode_encode`) and its lines (`readLines_encode`), and the encoding that
is named for files that are not Unicode never comes into play.

A text without a mark of its own must not start with the character of the mark, since the first
three bytes of such a file are taken for the mark. In the other three forms it may, for only one
mark is taken off.

Lines are joined by any of the line ends that a reader knows. That no new line arises at a joint
needs care for a carriage return, which together with a line feed behind it is a single end.
-/

namespace BankStatement

/-- The character that a byte order mark is written for. -/
def markChar : Char := Char.ofNat 0xFEFF

namespace Utf8

variable {t : Text}

/-- Bytes that start like UTF-16 hold no text in UTF-8: neither of the two bytes of its mark occurs
in it. -/
theorem splitMark?_encode (t : Text) : Utf16.splitMark? (encode t) = none := by
  have hread := decode_encode t
  -- neither byte of a mark of UTF-16 begins a character
  have hno (a : UInt8) (rest : Bytes) (ha : a = 0xFF ∨ a = 0xFE) (h : encode t = a :: rest) :
      False := by
    have hbad : decode (a :: rest) = none :: decode rest := by
      rcases ha with rfl | rfl <;> rw [decode.eq_def] <;> rfl
    rw [h, hbad] at hread
    cases t with
    | nil => cases hread
    | cons c t => cases (List.cons.inj hread).1
  cases h : encode t with
  | nil => rfl
  | cons a rest =>
      have ha : a ≠ 0xFF := fun ha => hno a rest (.inl ha) h
      have ha' : a ≠ 0xFE := fun ha => hno a rest (.inr ha) h
      cases rest with
      | nil => rfl
      | cons b rest => simp [Utf16.splitMark?, ha, ha']

/-- Only a text that starts with the mark's character is written with a mark in front. -/
theorem dropMark_encode (h : t.head? ≠ some markChar) : dropMark (encode t) = encode t := by
  refine if_neg fun hprefix => h ?_
  obtain ⟨rest, hrest⟩ := List.isPrefixOf_iff_prefix.mp hprefix
  have hread := decode_encode t
  have hmark : decode (mark ++ rest) = some markChar :: decode rest :=
    decode_three (by decide) (by decide) (by decide)
  rw [← hrest, hmark] at hread
  cases t with
  | nil => cases hread
  | cons c t => exact (List.cons.inj hread).1.symm

end Utf8

namespace TextFile

open Text (Newline IsLine joinWith)

/-- The forms in which a text is written to a file. -/
inductive Form where
  | utf8
  | utf8Marked
  | utf16 (order : Utf16.ByteOrder)
  deriving DecidableEq, Repr

def Form.encode : Form → Text → Bytes
  | .utf8, t => Utf8.encode t
  | .utf8Marked, t => Utf8.mark ++ Utf8.encode t
  | .utf16 order, t => Utf16.encode order t

/-- A file gives back its text. Without a mark of its own the text must not start with one. -/
theorem decode_encode (form : Form) {t : Text} (hmark : form = .utf8 → t.head? ≠ some markChar)
    (fallback : Text) : decode fallback (form.encode t) = .ok t := by
  cases form with
  | utf8 =>
      simp only [decode, Form.encode, Utf8.splitMark?_encode, Utf8.dropMark_encode (hmark rfl),
        Utf8.decode?_encode]
  | utf8Marked =>
      have hsplit : Utf16.splitMark? (Utf8.mark ++ Utf8.encode t) = none := rfl
      have hdrop : Utf8.dropMark (Utf8.mark ++ Utf8.encode t) = Utf8.encode t := rfl
      simp only [decode, Form.encode, hsplit, hdrop, Utf8.decode?_encode]
  | utf16 order =>
      simp only [decode, Form.encode, Utf16.encode, Utf16.splitMark?_mark, Utf16.decode?_written]

section

variable {newline : Newline} {lines : List Text}

theorem newline_ne_nil (newline : Newline) : newline.text ≠ [] := by
  cases newline <;> exact List.cons_ne_nil _ _

theorem markChar_notMem_newline (newline : Newline) : markChar ∉ newline.text := by
  cases newline <;> decide

/-- The text of some lines starts with a mark only if the first line does. -/
theorem head?_lines (h : ∀ first ∈ lines.head?, first.head? ≠ some markChar) :
    (joinWith newline.text lines).head? ≠ some markChar := by
  intro hhead
  cases lines with
  | nil => cases hhead
  | cons first lines =>
      rcases Text.head?_joinWith (newline_ne_nil newline) hhead with hfirst | hnewline
      · exact h first rfl hfirst
      · exact markChar_notMem_newline newline (List.mem_of_mem_head? hnewline)

/-- Lines that are written to a file in any form and with any line end are read back as they stand,
whatever encoding is named for files that are not Unicode. -/
theorem readLines_encode (form : Form) (newline : Newline) (hne : lines ≠ [])
    (hlines : ∀ line ∈ lines, IsLine line)
    (hmark : form = .utf8 → ∀ first ∈ lines.head?, first.head? ≠ some markChar)
    (fallback : Text) :
    readLines fallback (some (form.encode (joinWith newline.text lines))) = .ok lines := by
  have hhead : form = .utf8 → (joinWith newline.text lines).head? ≠ some markChar :=
    fun hform => head?_lines (hmark hform)
  rw [readLines, decode_encode form hhead, Except.map, Text.lines_joinWith newline hne hlines]

end

/-- A file with the mark of UTF-16, a character beyond the first plane, and blanks and empty lines
at both ends. -/
def sparseLines : List Text :=
  [[], " Überweisung ".toList, [Char.ofNat 0x1F4B6, markChar], "\t".toList, []]

theorem readLines_encode_sparseLines :
    sparseLines ≠ [] ∧ (∀ line ∈ sparseLines, IsLine line)
      ∧ readLines "no encoding".toList (some ((Form.utf16 .bigEndian).encode
        (joinWith Newline.carriageReturn.text sparseLines))) = .ok sparseLines := by
  have hne : sparseLines ≠ [] := List.cons_ne_nil _ _
  have hlines : ∀ line ∈ sparseLines, IsLine line := by decide
  exact ⟨hne, hlines, readLines_encode (.utf16 .bigEndian) .carriageReturn hne hlines nofun _⟩

end TextFile

end BankStatement
