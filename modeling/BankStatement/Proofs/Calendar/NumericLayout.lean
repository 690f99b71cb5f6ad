import BankStatement.Calendar.Layout
import BankStatement.Proofs.Text.LowerCase
import BankStatement.Proofs.Text.Trimming
import BankStatement.Proofs.Text.Written

/-!
# Layouts of three numbers

A layout that reads a text divides it into parts, one for each of its pieces, and every piece reads
its part on its own (`Layout.exists_parts`): what stands behind a part does not matter to it. The
part of a number consists of figures and has one of few lengths (`LayoutPiece.Spells.figures`).

Reading is by trying: a piece may have several readings, and one that is tried later is taken when
the pieces behind an earlier one cannot read the rest. So the two directions are proved apart. What
can be said of every text that is read does not ask which readings were taken; a part only has to be
read in some way. What is written in a layout, on the other hand, is read with the first reading of
every piece (`read?_written`), and for that it is enough that the first reading of each piece stops
where the piece was written to (`ReadsFirst`).

A `NumericLayout` is one of three numbers with a mark between them. Since the marks are no figures,
they divide the text, and the numbers are found in one way only (`length_third`). Two such layouts
with different marks, or with last numbers of different lengths, never read the same text
(`exclusive_of_marks`, `exclusive_of_lengths`), whether or not it names a day. The structure carries
what these proofs need, so that an instance is three pieces and a mark.
-/

namespace BankStatement

/-! ## Pieces and their parts -/

/-- What a number is written with: digits, and the blank that fills a place. -/
def IsFigure (c : Char) : Prop := isDecimalDigit c = true ∨ c = ' '

def Figures (t : Text) : Prop := ∀ c ∈ t, IsFigure c

theorem figures_of_digits {t : Text} (h : Text.Digits t) : Figures t :=
  fun c hc => .inl (h c hc)

/-- A character that is no figure and that no other equals up to case. -/
structure IsDateMark (mark : Char) : Prop where
  no_figure : ¬ IsFigure mark
  eq_of_same : ∀ c, Text.sameIgnoringCase mark c = true → c = mark

theorem isDateMark_point : IsDateMark '.' where
  no_figure := by unfold IsFigure; decide
  eq_of_same _ := Text.eq_of_sameIgnoringCase (by decide +kernel) (by decide +kernel)
    (by decide +kernel)

theorem isDateMark_hyphen : IsDateMark '-' where
  no_figure := by unfold IsFigure; decide
  eq_of_same _ := Text.eq_of_sameIgnoringCase (by decide +kernel) (by decide +kernel)
    (by decide +kernel)

namespace LayoutPiece

/-- The piece reads a text from its beginning to its end. -/
def Spells (piece : LayoutPiece) (part : Text) : Prop := ∃ n, (n, []) ∈ piece.readings part

theorem Slot.isFigure_of_value? {slot : Slot} {c : Char} {d : Nat} (h : slot.value? c = some d) :
    IsFigure c := by
  have hdigit {d : Nat} (hd : digitValue? c = some d) : IsFigure c := by
    refine .inl ?_
    rw [← digitValue?_isSome, hd, Option.isSome_some]
  cases slot with
  | digits first last =>
      rw [Slot.value?] at h
      split at h
      · exact hdigit h
      · cases h
  | anyDigit => exact hdigit h
  | filler =>
      rw [Slot.value?] at h
      split at h
      next hblank => exact .inr hblank
      next => cases h

theorem exists_part_of_readSlots {slots : List Slot} {start n : Nat} {t rest : Text}
    (h : readSlots start slots t = some (n, rest)) :
    ∃ part, t = part ++ rest ∧ readSlots start slots part = some (n, []) := by
  induction slots generalizing start t with
  | nil =>
      cases h
      exact ⟨[], rfl, rfl⟩
  | cons slot slots ih =>
      cases t with
      | nil => cases h
      | cons c t =>
          rw [readSlots] at h
          split at h
          next d hd =>
            obtain ⟨part, rfl, hpart⟩ := ih h
            refine ⟨c :: part, rfl, ?_⟩
            rw [readSlots, hd]
            exact hpart
          next => cases h

theorem figures_of_readSlots {slots : List Slot} {start n : Nat} {part : Text}
    (h : readSlots start slots part = some (n, [])) :
    part.length = slots.length ∧ Figures part := by
  induction slots generalizing start part with
  | nil =>
      cases h
      simp [Figures]
  | cons slot slots ih =>
      cases part with
      | nil => cases h
      | cons c part =>
          rw [readSlots] at h
          split at h
          next d hd =>
            obtain ⟨hlength, hfigures⟩ := ih h
            exact ⟨congrArg Nat.succ hlength,
              List.forall_mem_cons.mpr ⟨Slot.isFigure_of_value? hd, hfigures⟩⟩
          next => cases h

theorem exists_part_of_readName {name t rest : Text} {month n : Nat}
    (h : readName name month t = some (n, rest)) :
    ∃ part, t = part ++ rest ∧ readName name month part = some (n, []) := by
  refine ⟨t.take name.length, ?_, ?_⟩
  · simp only [readName, Option.ite_none_right_eq_some, Option.some.injEq, Prod.mk.injEq] at h
    rw [← h.2.2, List.take_append_drop]
  · simp only [readName, List.take_take, Nat.min_self, Option.ite_none_right_eq_some,
      Option.some.injEq, Prod.mk.injEq] at h ⊢
    exact ⟨h.1, h.2.1, List.drop_eq_nil_of_le (List.length_take_le _ _)⟩

/-- Some of white space is white space again, and of that all is passed over. -/
theorem exists_part_of_blankReadings {n : Nat} {t rest : Text}
    (h : (n, rest) ∈ blankReadings t) :
    ∃ part, t = part ++ rest ∧ (n, []) ∈ blankReadings part := by
  obtain ⟨k, hk, heq⟩ := List.mem_map.mp h
  cases heq
  rw [List.mem_reverse, List.mem_range] at hk
  -- the part lies within the run of white space, so it is a run of white space itself
  have htake : t.take (k + 1) = (t.takeWhile isBlank).take (k + 1) := by
    conv => lhs; rw [← List.takeWhile_append_dropWhile (p := isBlank) (l := t)]
    exact List.take_append_of_le_length hk
  have hrun : (t.take (k + 1)).takeWhile isBlank = t.take (k + 1) := by
    rw [List.takeWhile_eq_self_iff, htake]
    intro c hc
    exact List.mem_takeWhile_imp (List.mem_of_mem_take hc)
  refine ⟨t.take (k + 1), (List.take_append_drop _ _).symm, List.mem_map.mpr ⟨k, ?_, ?_⟩⟩
  · rw [hrun, List.mem_reverse, List.mem_range, htake, List.length_take]
    omega
  · rw [List.drop_eq_nil_of_le (List.length_take_le _ _)]

/-- A piece that tries some spellings in a row reads its part if every spelling does. -/
theorem exists_part_of_filterMap {α : Type} (read : α → Text → Option (Nat × Text))
    (hread : ∀ {a t n rest}, read a t = some (n, rest) →
      ∃ part, t = part ++ rest ∧ read a part = some (n, []))
    {tried : List α} {n : Nat} {t rest : Text} (h : (n, rest) ∈ tried.filterMap (read · t)) :
    ∃ part, t = part ++ rest ∧ (n, []) ∈ tried.filterMap (read · part) := by
  obtain ⟨a, ha, hfirst⟩ := List.mem_filterMap.mp h
  obtain ⟨part, ht, hpart⟩ := hread hfirst
  exact ⟨part, ht, List.mem_filterMap.mpr ⟨a, ha, hpart⟩⟩

theorem readings_literal (c d : Char) (t : Text) :
    readings (.literal c) (d :: t) = if Text.sameIgnoringCase c d then [(0, t)] else [] := rfl

/-- What stands behind the part of a piece does not matter to it. -/
theorem exists_part {piece : LayoutPiece} {n : Nat} {t rest : Text}
    (h : (n, rest) ∈ piece.readings t) :
    ∃ part, t = part ++ rest ∧ (n, []) ∈ piece.readings part := by
  cases piece with
  | literal c =>
      cases t with
      | nil => cases h
      | cons d t =>
          refine ⟨[d], ?_⟩
          rw [readings_literal] at h ⊢
          split at h
          next hsame =>
            cases List.mem_singleton.mp h
            rw [if_pos hsame]
            exact ⟨rfl, List.mem_singleton_self _⟩
          next => cases h
  | blanks => exact exists_part_of_blankReadings h
  | monthName =>
      exact exists_part_of_filterMap (fun a : String × Nat => readName a.1.toList a.2)
        exists_part_of_readName h
  | monthAbbreviation =>
      exact exists_part_of_filterMap (fun a : String × Nat => readName a.1.toList a.2)
        exists_part_of_readName h
  | day | month | year | shortYear | dayOfYear | hour | minute | second =>
      exact exists_part_of_filterMap (readSlots 0) exists_part_of_readSlots h

/-- The part of a number is as long as one of its spellings and consists of figures. -/
theorem Spells.figures {piece : LayoutPiece} {part : Text} (h : piece.Spells part)
    (hnumber : piece.spellings ≠ []) :
    (∃ slots ∈ piece.spellings, part.length = slots.length) ∧ Figures part := by
  obtain ⟨n, h⟩ := h
  have hmem : (n, []) ∈ piece.spellings.filterMap fun slots => readSlots 0 slots part := by
    cases piece with
    | literal | blanks | monthName | monthAbbreviation => exact absurd rfl hnumber
    | day | month | year | shortYear | dayOfYear | hour | minute | second => exact h
  obtain ⟨slots, hslots, hread⟩ := List.mem_filterMap.mp hmem
  obtain ⟨hlength, hfigures⟩ := figures_of_readSlots hread
  exact ⟨⟨slots, hslots, hlength⟩, hfigures⟩

theorem Spells.mark {mark : Char} {part : Text} (h : (literal mark).Spells part)
    (hmark : IsDateMark mark) : part = [mark] := by
  obtain ⟨n, h⟩ := h
  cases part with
  | nil => cases h
  | cons c part =>
      rw [readings_literal] at h
      split at h
      next hsame =>
        cases List.mem_singleton.mp h
        rw [hmark.eq_of_same c hsame]
      next => cases h

/-- The piece reads a part first, whatever stands behind it. -/
def ReadsFirst (piece : LayoutPiece) (n : Nat) (part : Text) : Prop :=
  ∀ rest, ∃ more, piece.readings (part ++ rest) = (n, rest) :: more

theorem readsFirst_literal (c : Char) : (literal c).ReadsFirst 0 [c] := by
  intro rest
  refine ⟨[], ?_⟩
  rw [List.singleton_append, readings_literal, if_pos (Text.sameIgnoringCase_self c)]

/-- A piece whose first reading lets the pieces behind it be read is read that way. -/
theorem ReadsFirst.cons {piece : LayoutPiece} {pieces : List LayoutPiece} {part t last : Text}
    {n : Nat} {values : List (LayoutPiece × Nat)} (h : piece.ReadsFirst n part)
    (ht : firstReading pieces t = some (values, last)) :
    firstReading (piece :: pieces) (part ++ t) = some ((piece, n) :: values, last) := by
  obtain ⟨more, hmore⟩ := h t
  rw [firstReading, hmore, List.findSome?_cons]
  simp only [ht, Option.map_some]

/-- By induction on the pieces: the first one takes its part off the text, and the others divide
what is left. -/
theorem exists_parts {pieces : List LayoutPiece} {values : List (LayoutPiece × Nat)} {t last : Text}
    (h : firstReading pieces t = some (values, last)) :
    ∃ parts, t = parts.flatten ++ last ∧ List.Forall₂ Spells pieces parts := by
  induction pieces generalizing t values with
  | nil =>
      cases h
      exact ⟨[], rfl, .nil⟩
  | cons piece pieces ih =>
      rw [firstReading] at h
      obtain ⟨⟨n, rest⟩, hfirst, hothers⟩ := List.exists_of_findSome?_eq_some h
      obtain ⟨⟨others, last'⟩, hreading, heq⟩ := Option.map_eq_some_iff.mp hothers
      cases heq
      obtain ⟨part, rfl, hpart⟩ := exists_part hfirst
      obtain ⟨parts, rfl, hparts⟩ := ih hreading
      refine ⟨part :: parts, ?_, .cons ⟨n, hpart⟩ hparts⟩
      rw [List.flatten_cons, List.append_assoc]

end LayoutPiece

/-- A layout that reads a text divides all of it. -/
theorem Layout.exists_parts {layout : Layout} {t : Text} {d : Date} (h : layout.read? t = some d) :
    ∃ parts : List Text, t = parts.flatten ∧ List.Forall₂ LayoutPiece.Spells layout parts := by
  obtain ⟨⟨values, rest⟩, hfirst, hdate⟩ := Option.bind_eq_some_iff.mp h
  obtain ⟨parts, rfl, hparts⟩ := LayoutPiece.exists_parts hfirst
  refine ⟨parts, ?_, hparts⟩
  cases rest with
  | nil => exact List.append_nil _
  | cons c rest => cases hdate

/-! ## Three numbers with marks between them -/

/-- A layout of three numbers with the same mark between them. -/
structure NumericLayout where
  mark : Char
  first : LayoutPiece
  second : LayoutPiece
  third : LayoutPiece
  isMark : IsDateMark mark
  numbers : ∀ piece ∈ [first, second, third], piece.spellings ≠ []

namespace NumericLayout

def pieces (s : NumericLayout) : Layout :=
  [s.first, .literal s.mark, s.second, .literal s.mark, s.third]

theorem mark_notMem (s : NumericLayout) {part : Text} (h : Figures part) :
    s.mark ∉ part :=
  fun hmem => s.isMark.no_figure (h _ hmem)

/-- A text that the layout reads is three numbers with the mark between them. -/
theorem exists_numbers {s : NumericLayout} {t : Text} {d : Date} (h : s.pieces.read? t = some d) :
    ∃ x y z, t = x ++ s.mark :: (y ++ s.mark :: z)
      ∧ Figures x ∧ Figures y ∧ Figures z
      ∧ ∃ slots ∈ s.third.spellings, z.length = slots.length := by
  obtain ⟨parts, rfl, hparts⟩ := Layout.exists_parts h
  obtain ⟨x, m, y, m', z, rfl, hx, hm, hy, hm', hz⟩ : ∃ x m y m' z, parts = [x, m, y, m', z]
      ∧ s.first.Spells x ∧ (LayoutPiece.literal s.mark).Spells m ∧ s.second.Spells y
      ∧ (LayoutPiece.literal s.mark).Spells m' ∧ s.third.Spells z := by
    match parts, hparts with
    | [x, m, y, m', z], .cons hx (.cons hm (.cons hy (.cons hm' (.cons hz .nil)))) =>
        exact ⟨x, m, y, m', z, rfl, hx, hm, hy, hm', hz⟩
  obtain rfl := hm.mark s.isMark
  obtain rfl := hm'.mark s.isMark
  have hxs := hx.figures (s.numbers _ (by simp))
  have hys := hy.figures (s.numbers _ (by simp))
  have hzs := hz.figures (s.numbers _ (by simp))
  exact ⟨x, y, z, by simp, hxs.2, hys.2, hzs.2, hzs.1⟩

/-- The numbers are found in one way only, so the last one has a length that the layout allows. -/
theorem length_third (s : NumericLayout) {x y z : Text} (hx : Figures x) (hy : Figures y) {d : Date}
    (h : s.pieces.read? (x ++ s.mark :: (y ++ s.mark :: z)) = some d) :
    ∃ slots ∈ s.third.spellings, z.length = slots.length := by
  obtain ⟨x', y', z', heq, hx', hy', -, hlength⟩ := exists_numbers h
  obtain ⟨-, heq⟩ := Text.append_cons_inj (s.mark_notMem hx) (s.mark_notMem hx') heq
  obtain ⟨-, rfl⟩ := Text.append_cons_inj (s.mark_notMem hy) (s.mark_notMem hy') heq
  exact hlength

/-- What is written in the layout is read with the first reading of every piece. -/
theorem read?_written (s : NumericLayout) {x y z : Text} {a b c : Nat}
    (hx : s.first.ReadsFirst a x) (hy : s.second.ReadsFirst b y) (hz : s.third.ReadsFirst c z) :
    s.pieces.read? (x ++ s.mark :: (y ++ s.mark :: z))
      = ([(s.first, a), (s.second, b), (s.third, c)].foldl DateParts.set {}).toDate? := by
  have hmark := LayoutPiece.readsFirst_literal s.mark
  have hlast : LayoutPiece.firstReading [s.third] (z ++ []) = some ([(s.third, c)], []) :=
    hz.cons rfl
  rw [List.append_nil] at hlast
  have hfirst : LayoutPiece.firstReading s.pieces (x ++ s.mark :: (y ++ s.mark :: z))
      = some ([(s.first, a), (.literal s.mark, 0), (s.second, b), (.literal s.mark, 0),
        (s.third, c)], []) :=
    hx.cons <| hmark.cons <| hy.cons <| hmark.cons hlast
  rw [Layout.read?, hfirst]
  rfl

/-- No text is read by both layouts. -/
def Exclusive (s s' : NumericLayout) : Prop :=
  ∀ (t : Text) (d d' : Date), s.pieces.read? t = some d → s'.pieces.read? t ≠ some d'

/-- Layouts with different marks: the mark of the one stands in no text of the other. -/
theorem exclusive_of_marks {s s' : NumericLayout} (hmarks : s.mark ≠ s'.mark) : s.Exclusive s' := by
  intro t d d' h h'
  obtain ⟨x, y, z, rfl, -⟩ := exists_numbers h
  obtain ⟨x', y', z', heq, hx, hy, hz, -⟩ := exists_numbers h'
  have hmem : s.mark ∈ x' ++ s'.mark :: (y' ++ s'.mark :: z') := by
    rw [← heq]
    exact List.mem_append_right x List.mem_cons_self
  simp only [List.mem_append, List.mem_cons] at hmem
  rcases hmem with hmem | hmem | hmem | hmem | hmem
  · exact s.mark_notMem hx hmem
  · exact hmarks hmem
  · exact s.mark_notMem hy hmem
  · exact hmarks hmem
  · exact s.mark_notMem hz hmem

/-- Layouts with the same mark: both find the same last number, which then has two lengths. -/
theorem exclusive_of_lengths {s s' : NumericLayout} (hmarks : s.mark = s'.mark)
    (hlengths : ∀ slots ∈ s.third.spellings, ∀ slots' ∈ s'.third.spellings,
      slots.length ≠ slots'.length) : s.Exclusive s' := by
  intro t d d' h h'
  obtain ⟨x, y, z, rfl, hx, hy, -, slots', hslots', hlength'⟩ := exists_numbers h'
  rw [← hmarks] at h
  obtain ⟨slots, hslots, hlength⟩ := s.length_third hx hy h
  exact hlengths slots hslots slots' hslots' (hlength.symm.trans hlength')

end NumericLayout

/-! ## Written dates -/

theorem DateParts.toDate?_date (d : Date) :
    DateParts.toDate? { year := some d.year, month := d.month, day := d.day } = some d := by
  have hparts : Date.ofParts? d.year d.month d.day = some d :=
    Date.ofParts?_eq_some_iff.mpr ⟨rfl, rfl, rfl⟩
  simp only [DateParts.toDate?, Option.isNone_some, Option.getD_some, Bool.false_and, hparts]
  rfl

/-- There are no blanks around numbers with marks between them. -/
theorem Text.strip_numbers {mark : Char} (hmark : isBlank mark = false) {x y z : Text}
    (hx : Digits x) (hy : Digits y) (hz : Digits z) :
    strip (x ++ mark :: (y ++ mark :: z)) = x ++ mark :: (y ++ mark :: z) := by
  refine strip_of_trimmed (trimmed_of_no_blank fun c hc => ?_)
  simp only [List.mem_append, List.mem_cons] at hc
  rcases hc with hc | rfl | hc | rfl | hc
  · exact isBlank_of_isDecimalDigit (hx c hc)
  · exact hmark
  · exact isBlank_of_isDecimalDigit (hy c hc)
  · exact hmark
  · exact isBlank_of_isDecimalDigit (hz c hc)

end BankStatement
