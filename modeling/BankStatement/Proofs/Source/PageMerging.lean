import BankStatement.Proofs.Text.Splitting
import BankStatement.Proofs.Text.Trimming
import BankStatement.Source.Pages
import Mathlib.Data.List.DropRight

/-!
# What is left of pages

Pages that are blank or missing leave no trace (`joinPages_eq`). Of every other page the lines are
dropped that are the longest beginning in common with the whole page before (`longestShared_take`),
and behind the last page the empty lines are (`exists_replicate`). So pages that repeat one header
in front of bodies of their own are the header and then the bodies (`mergePages_of_repeats`): where
the bodies part at their first lines, the header is all that two pages share.

A page is compared with the page before it as that was read, and not with what was left of it.
Therefore the header is dropped from every page but the first, though only the first still shows it.
It also means that lines which two pages happen to share behind the header are dropped with it, and
so the bodies of pages that follow each other have to part at their first lines.

`LongestShared` says what the longest beginning in common is without counting: it is a beginning of
both, and no longer one is. The number of lines that the program counts is shown to give it.

Blank and missing pages are put in anywhere by `Interspersed`. They are passed over and do not
become the page before, so a header is dropped across them.
-/

namespace BankStatement

open Text (Newline IsLine joinWith isBlankText)

variable {previous header lines : List Text} {texts : List Text} {pages : List (Option Text)}

/-! ## What two pages share -/

/-- The longest beginning that two lists of lines have in common. -/
structure LongestShared (shared a b : List Text) : Prop where
  left : shared <+: a
  right : shared <+: b
  longest : ∀ other : List Text, other <+: a → other <+: b → other <+: shared

/-- What is left of a page: the lines behind the longest beginning it shares with the page before.
-/
def IsRemainder (previous lines kept : List Text) : Prop :=
  ∃ shared, LongestShared shared previous lines ∧ lines = shared ++ kept

theorem longestShared_nil {a b : List Text} (h : ∀ line, ¬ ([line] <+: a ∧ [line] <+: b)) :
    LongestShared [] a b where
  left := List.nil_prefix
  right := List.nil_prefix
  longest := by
    intro other hleft hright
    cases other with
    | nil => exact List.nil_prefix
    | cons line other =>
        have hline : [line] <+: line :: other := List.prefix_append [line] other
        exact absurd ⟨hline.trans hleft, hline.trans hright⟩ (h line)

theorem longestShared_take (a b : List Text) : LongestShared (b.take (sharedLines a b)) a b := by
  fun_induction sharedLines a b with
  | case1 a line b ih =>
      rw [List.take_succ_cons]
      refine ⟨List.cons_prefix_cons.mpr ⟨rfl, ih.left⟩,
        List.cons_prefix_cons.mpr ⟨rfl, ih.right⟩, ?_⟩
      intro other hleft hright
      cases other with
      | nil => exact List.nil_prefix
      | cons first other =>
          obtain ⟨hfirst, hleft'⟩ := List.cons_prefix_cons.mp hleft
          obtain ⟨-, hright'⟩ := List.cons_prefix_cons.mp hright
          exact List.cons_prefix_cons.mpr ⟨hfirst, ih.longest other hleft' hright'⟩
  | case2 line a other b hne =>
      refine longestShared_nil fun first hboth => hne ?_
      obtain ⟨rfl, -⟩ := List.cons_prefix_cons.mp hboth.1
      exact (List.cons_prefix_cons.mp hboth.2).1
  | case3 a b hnil =>
      refine longestShared_nil fun first hboth => ?_
      obtain ⟨⟨a, rfl⟩, ⟨b, rfl⟩⟩ := hboth
      exact hnil _ _ _ _ rfl rfl

theorem sharedLines_append {a b : List Text} (h : a.head? ≠ b.head?) (header : List Text) :
    sharedLines (header ++ a) (header ++ b) = header.length := by
  induction header with
  | nil =>
      cases a with
      | nil => rfl
      | cons line a =>
          cases b with
          | nil => rfl
          | cons other b => exact if_neg fun heq => h (congrArg some heq)
  | cons line header ih =>
      show (if line = line then sharedLines (header ++ a) (header ++ b) + 1 else 0) = _
      rw [if_pos rfl, ih, List.length_cons]

/-! ## Pages that hold something -/

/-- The lines of the pages that are neither blank nor missing. -/
def filledPages (pages : List (Option Text)) : List (List Text) :=
  pages.filterMap fun page => (page.filter (!isBlankText ·)).map Text.lines

theorem filledPages_page {text : Text} (h : isBlankText text = false)
    (pages : List (Option Text)) :
    filledPages (some text :: pages) = Text.lines text :: filledPages pages := by
  simp [filledPages, Option.filter, h]

theorem filledPages_blank {text : Text} (h : isBlankText text = true)
    (pages : List (Option Text)) : filledPages (some text :: pages) = filledPages pages := by
  simp [filledPages, Option.filter, h]

/-- What is left of some pages, each without what it repeats from the one before. -/
def remainders (previous : List Text) : List (List Text) → List (List Text)
  | [] => []
  | lines :: rest => lines.drop (sharedLines previous lines) :: remainders lines rest

theorem joinPages_eq (previous : List Text) (pages : List (Option Text)) :
    joinPages previous pages = (remainders previous (filledPages pages)).flatten := by
  fun_induction joinPages previous pages with
  | case1 => rfl
  | case2 previous pages ih => exact ih
  | case3 previous page pages hblank ih => rw [filledPages_blank hblank, ih]
  | case4 previous page pages hfilled lines ih =>
      rw [filledPages_page (Bool.not_eq_true _ ▸ hfilled), ih]
      rfl

/-- Of every page a longest beginning that it shares with the page before is gone, and the lines
behind it are there in their order. -/
theorem forall₂_remainders (previous : List Text) (filled : List (List Text)) :
    List.Forall₂ (fun pair kept => IsRemainder pair.1 pair.2 kept)
      ((previous :: filled).zip filled) (remainders previous filled) := by
  induction filled generalizing previous with
  | nil => exact .nil
  | cons lines rest ih =>
      refine .cons ⟨_, longestShared_take previous lines, ?_⟩ (ih lines)
      exact (List.take_append_drop _ _).symm

/-! ## The end of the document -/

theorem dropEmptyEnd_eq (lines : List Text) :
    dropEmptyEnd lines = lines.rdropWhile (·.isEmpty) := rfl

/-- Nothing but empty lines is dropped at the end. -/
theorem exists_replicate (lines : List Text) :
    ∃ n, lines = dropEmptyEnd lines ++ List.replicate n [] := by
  refine ⟨(lines.rtakeWhile (·.isEmpty)).length, ?_⟩
  have hempty : lines.rtakeWhile (·.isEmpty)
      = List.replicate (lines.rtakeWhile (·.isEmpty)).length [] := by
    rw [List.eq_replicate_iff]
    refine ⟨rfl, fun line hline => List.isEmpty_iff.mp (List.mem_rtakeWhile_imp hline)⟩
  rw [← hempty, dropEmptyEnd_eq]
  exact List.rdropWhile_append_rtakeWhile.symm

theorem getLast?_dropEmptyEnd (lines : List Text) : (dropEmptyEnd lines).getLast? ≠ some [] := by
  intro hlast
  rw [dropEmptyEnd_eq] at hlast
  have hne : lines.rdropWhile (·.isEmpty) ≠ [] := by
    intro hnil
    rw [hnil] at hlast
    cases hlast
  have hfull := List.rdropWhile_last_not (·.isEmpty) lines hne
  rw [List.getLast?_eq_some_getLast hne] at hlast
  rw [Option.some.inj hlast] at hfull
  exact hfull rfl

theorem dropEmptyEnd_of_getLast? (h : lines.getLast? ≠ some []) : dropEmptyEnd lines = lines := by
  rw [dropEmptyEnd_eq, List.rdropWhile_eq_self_iff]
  intro hne hempty
  rw [List.getLast?_eq_some_getLast hne, List.isEmpty_iff.mp hempty] at h
  exact h rfl

/-! ## Pages with one header -/

/-- A page: its lines behind the header, and the line end with which it is written. -/
structure Sheet where
  newline : Newline
  body : List Text
  deriving DecidableEq, Repr

def Sheet.text (header : List Text) (sheet : Sheet) : Text :=
  joinWith sheet.newline.text (header ++ sheet.body)

/-- Pages that repeat a header: each holds something that is not blank, two that follow each other
part at the first line behind the header, and the last one does not end with an empty line. -/
structure RepeatsHeader (header : List Text) (sheets : List Sheet) : Prop where
  ne_nil : sheets ≠ []
  isLine : ∀ sheet ∈ sheets, ∀ line ∈ header ++ sheet.body, IsLine line
  body : ∀ sheet ∈ sheets, sheet.body ≠ []
  filled : ∀ sheet ∈ sheets, ∃ line ∈ header ++ sheet.body, isBlankText line = false
  parts : sheets.IsChain fun a b => a.body.head? ≠ b.body.head?
  ending : ∀ last ∈ sheets.getLast?, last.body.getLast? ≠ some []

/-- Pages with blank and missing ones put in anywhere. -/
inductive Interspersed : List Text → List (Option Text) → Prop
  | nil : Interspersed [] []
  | page (text : Text) {texts : List Text} {pages : List (Option Text)}
    (h : Interspersed texts pages) : Interspersed (text :: texts) (some text :: pages)
  | blank {text : Text} (hblank : isBlankText text = true) {texts : List Text}
    {pages : List (Option Text)} (h : Interspersed texts pages) :
    Interspersed texts (some text :: pages)
  | missing {texts : List Text} {pages : List (Option Text)} (h : Interspersed texts pages) :
    Interspersed texts (none :: pages)

theorem Interspersed.filledPages_eq (h : Interspersed texts pages)
    (hfilled : ∀ text ∈ texts, isBlankText text = false) :
    filledPages pages = texts.map Text.lines := by
  induction h with
  | nil => rfl
  | page text h ih =>
      obtain ⟨htext, hrest⟩ := List.forall_mem_cons.mp hfilled
      rw [filledPages_page htext, ih hrest, List.map_cons]
  | blank hblank h ih => rw [filledPages_blank hblank, ih hfilled]
  | missing h ih => exact ih hfilled

namespace RepeatsHeader

variable {sheets : List Sheet}

theorem lines_text (h : RepeatsHeader header sheets) {sheet : Sheet} (hsheet : sheet ∈ sheets) :
    Text.lines (sheet.text header) = header ++ sheet.body := by
  have hne : header ++ sheet.body ≠ [] := List.append_ne_nil_of_right_ne_nil _ (h.body sheet hsheet)
  exact Text.lines_joinWith sheet.newline hne (h.isLine sheet hsheet)

theorem isBlankText_text (h : RepeatsHeader header sheets) {sheet : Sheet}
    (hsheet : sheet ∈ sheets) : isBlankText (sheet.text header) = false := by
  obtain ⟨line, hline, hfilled⟩ := h.filled sheet hsheet
  rw [← Bool.not_eq_true, Text.isBlankText_iff] at hfilled ⊢
  intro hblanks
  exact hfilled fun c hc => hblanks c ((Text.infix_joinWith hline).subset hc)

theorem getLast?_joined (h : RepeatsHeader header sheets) :
    (header ++ sheets.flatMap (·.body)).getLast? ≠ some [] := by
  obtain ⟨front, last, rfl⟩ := (List.eq_nil_or_concat' sheets).resolve_left h.ne_nil
  have hbody := h.body last (by simp)
  have hlast := h.ending last (by simp)
  rwa [List.flatMap_append, List.flatMap_singleton, ← List.append_assoc,
    List.getLast?_append_of_ne_nil _ hbody]

end RepeatsHeader

/-- Behind the first page only the bodies are left, whatever they hold: two of them need to differ
at their first lines only, and a body may be empty where the one before it is not. -/
theorem remainders_bodies {first : Sheet} {sheets : List Sheet}
    (h : (first :: sheets).IsChain fun a b => a.body.head? ≠ b.body.head?) :
    remainders (header ++ first.body) (sheets.map fun sheet => header ++ sheet.body)
      = sheets.map (·.body) := by
  induction sheets generalizing first with
  | nil => rfl
  | cons next sheets ih =>
      obtain ⟨hparts, hrest⟩ := List.isChain_cons_cons.mp h
      rw [List.map_cons, remainders, sharedLines_append hparts, List.drop_left, ih hrest,
        List.map_cons]

theorem mergePages_of_repeats {sheets : List Sheet} (h : RepeatsHeader header sheets)
    (hpages : Interspersed (sheets.map (·.text header)) pages) :
    mergePages pages = header ++ sheets.flatMap (·.body) := by
  have hfilled : filledPages pages = sheets.map fun sheet => header ++ sheet.body := by
    have hblank : ∀ text ∈ sheets.map (·.text header), isBlankText text = false := by
      intro text htext
      obtain ⟨sheet, hsheet, rfl⟩ := List.mem_map.mp htext
      exact h.isBlankText_text hsheet
    rw [hpages.filledPages_eq hblank, List.map_map]
    exact List.map_congr_left fun sheet hsheet => h.lines_text hsheet
  have hjoined : joinPages [] pages = header ++ sheets.flatMap (·.body) := by
    obtain ⟨first, rest, rfl⟩ := List.exists_cons_of_ne_nil h.ne_nil
    rw [joinPages_eq, hfilled, List.map_cons, remainders, remainders_bodies h.parts,
      List.flatMap_cons, List.flatten_cons, ← List.flatMap_def, ← List.append_assoc]
    rfl
  rw [mergePages, hjoined, dropEmptyEnd_of_getLast? h.getLast?_joined]

/-- One page of lines that are not blank is these lines. -/
theorem mergePages_single (newline : Newline) (hne : lines ≠ [])
    (hline : ∀ line ∈ lines, IsLine line) (hfilled : ∀ line ∈ lines, isBlankText line = false) :
    mergePages [some (joinWith newline.text lines)] = lines := by
  have hending : lines.getLast? ≠ some [] := by
    intro hlast
    have hempty := hfilled [] (List.mem_of_getLast? hlast)
    cases hempty
  have hrepeats : RepeatsHeader [] [⟨newline, lines⟩] := by
    refine ⟨List.cons_ne_nil _ _, ?_, ?_, ?_, .singleton _, ?_⟩ <;> intro sheet hsheet
    · rw [List.mem_singleton.mp hsheet]
      exact hline
    · rw [List.mem_singleton.mp hsheet]
      exact hne
    · obtain ⟨line, rest, rfl⟩ := List.exists_cons_of_ne_nil hne
      rw [List.mem_singleton.mp hsheet]
      exact ⟨line, List.mem_cons_self, hfilled line List.mem_cons_self⟩
    · cases hsheet
      exact hending
  have hmerged := mergePages_of_repeats hrepeats (.page _ .nil)
  simpa [Sheet.text] using hmerged

/-- Pages that repeat a header, with blank and missing pages among them, are the header and then the
bodies. Of any pages that are not blank the lines are left that stand behind the longest beginning
in common with the whole page before, and at the end of the document only empty lines are gone. -/
theorem mergePages_repeatedHeader (pages : List (Option Text)) :
    (∀ (header : List Text) (sheets : List Sheet), RepeatsHeader header sheets →
      Interspersed (sheets.map (·.text header)) pages →
      mergePages pages = header ++ sheets.flatMap (·.body))
    ∧ ∃ kept : List (List Text),
      List.Forall₂ (fun pair kept => IsRemainder pair.1 pair.2 kept)
        (([] :: filledPages pages).zip (filledPages pages)) kept
      ∧ (∃ n, kept.flatten = mergePages pages ++ List.replicate n [])
      ∧ (mergePages pages).getLast? ≠ some [] := by
  refine ⟨fun header sheets hsheets hpages => mergePages_of_repeats hsheets hpages,
    remainders [] (filledPages pages), forall₂_remainders [] (filledPages pages), ?_,
    getLast?_dropEmptyEnd _⟩
  rw [← joinPages_eq]
  exact exists_replicate (joinPages [] pages)

/-- Three pages below a letterhead, the third with the booking of the first. -/
def threeSheets : List Sheet := [
  ⟨.both, ["01.03. A".toList, [], "02.03. B".toList]⟩,
  ⟨.lineFeed, ["03.03. C".toList]⟩,
  ⟨.carriageReturn, ["01.03. A".toList, " ".toList]⟩]

def letterhead : List Text := ["Kontoauszug".toList, []]

theorem repeatsHeader_threeSheets : RepeatsHeader letterhead threeSheets where
  ne_nil := by decide
  isLine := by decide
  body := by decide
  filled := by decide
  parts := by decide
  ending := by decide

theorem mergePages_repeatedHeader_threeSheets :
    mergePages [some ((threeSheets[0]).text letterhead), none,
        some ((threeSheets[1]).text letterhead), some " \n".toList,
        some ((threeSheets[2]).text letterhead)]
      = ["Kontoauszug".toList, [], "01.03. A".toList, [], "02.03. B".toList, "03.03. C".toList,
        "01.03. A".toList, " ".toList] :=
  (mergePages_repeatedHeader _).1 letterhead threeSheets repeatsHeader_threeSheets
    (.page _ (.missing (.page _ (.blank (by decide) (.page _ .nil)))))

end BankStatement
