import BankStatement.Text.Basic
import Mathlib.Data.List.TakeWhile

/-!
# Trimming

A text is made of blanks, a trimmed middle and blanks again, and trimming gives the middle
(`strip_eq`, `exists_strip`). What trimming does to a text follows from the place where its middle
stands.

These two statements are the interface. The definition takes blanks off the front and turns the text
around to take them off the end, and after the first lemmas nothing refers to that any more: a fact
about a trimmed text is shown by giving its middle, and a fact about any text by taking it apart.

`Trimmed` speaks of the first and the last character if there are any, so the empty text is trimmed.
Blanks are all characters that count as white space, not only those that can be typed.
-/

namespace BankStatement.Text

/-- A text that neither starts nor ends with a blank. -/
def Trimmed (t : Text) : Prop :=
  (∀ c ∈ t.head?, isBlank c = false) ∧ ∀ c ∈ t.getLast?, isBlank c = false

instance (t : Text) : Decidable (Trimmed t) :=
  decidable_of_iff (t.head?.all (!isBlank ·) = true ∧ t.getLast?.all (!isBlank ·) = true)
    (by simp [Trimmed, Option.all_eq_true])

/-- A text of blanks. -/
def Blanks (t : Text) : Prop := ∀ c ∈ t, isBlank c = true

theorem blanks_nil : Blanks [] := by simp [Blanks]

theorem blanks_blank : Blanks [' '] := by simp [Blanks]; decide

theorem Blanks.append {s t : Text} (hs : Blanks s) (ht : Blanks t) : Blanks (s ++ t) :=
  List.forall_mem_append.mpr ⟨hs, ht⟩

theorem isBlankText_iff {t : Text} : isBlankText t = true ↔ Blanks t := List.all_eq_true

theorem isBlankText_of_mem {t : Text} {c : Char} (h : c ∈ t) (hc : isBlank c = false) :
    isBlankText t = false := by
  rw [Bool.eq_false_iff, ne_eq, isBlankText_iff]
  intro hblanks
  rw [hblanks c h] at hc
  cases hc

theorem trimmed_nil : Trimmed [] := by simp [Trimmed]

theorem dropWhile_of_head {p : Char → Bool} {t : Text} (h : ∀ c ∈ t.head?, p c = false) :
    t.dropWhile p = t := by
  cases t with
  | nil => rfl
  | cons c t => exact List.dropWhile_cons_of_neg (by simp [h c rfl])

theorem dropWhile_of_all {p : Char → Bool} {t u : Text} (h : ∀ c ∈ t, p c = true)
    (hu : ∀ c ∈ u.head?, p c = false) : (t ++ u).dropWhile p = u := by
  rw [List.dropWhile_append_of_pos h, dropWhile_of_head hu]

theorem takeWhile_of_all {p : Char → Bool} {t u : Text} (h : ∀ c ∈ t, p c = true)
    (hu : ∀ c ∈ u.head?, p c = false) : (t ++ u).takeWhile p = t := by
  rw [List.takeWhile_append_of_pos h]
  cases u with
  | nil => exact List.append_nil t
  | cons c u => rw [List.takeWhile_cons_of_neg (by simp [hu c rfl]), List.append_nil]

/-- A run of one class and what follows it are found in one way only. Dates, gaps and amounts on a
line are told apart by this. -/
theorem append_inj_of_all {p : Char → Bool} {t u x y : Text} (ht : ∀ c ∈ t, p c = true)
    (hu : ∀ c ∈ u, p c = true) (hx : ∀ c ∈ x.head?, p c = false) (hy : ∀ c ∈ y.head?, p c = false)
    (h : t ++ x = u ++ y) : t = u ∧ x = y := by
  have hsame : t = u := by rw [← takeWhile_of_all ht hx, h, takeWhile_of_all hu hy]
  exact ⟨hsame, List.append_cancel_left (hsame ▸ h)⟩

/-- Two texts end at the first mark of a kind. -/
theorem append_cons_inj {d : Char} {t u x y : Text} (ht : d ∉ t) (hu : d ∉ u)
    (h : t ++ d :: x = u ++ d :: y) : t = u ∧ x = y := by
  have hother {w : Text} (hw : d ∉ w) : ∀ c ∈ w, (c != d) = true :=
    fun c hc => bne_iff_ne.mpr (ne_of_mem_of_not_mem hc hw)
  obtain ⟨hsame, hrest⟩ :=
    append_inj_of_all (hother ht) (hother hu) (by simp) (by simp) h
  exact ⟨hsame, (List.cons.inj hrest).2⟩

/-- A text cannot reach over a character that it does not hold, so whether it stands ahead is
decided in front of that character. -/
theorem prefix_append_cons_iff {d : Char} {w t u : Text} (h : d ∉ w) :
    w <+: t ++ d :: u ↔ w <+: t := by
  refine ⟨fun hw => ?_, fun hw => hw.trans (List.prefix_append t (d :: u))⟩
  have hpart : t ++ [d] <+: t ++ d :: u := ⟨u, by simp⟩
  rcases List.prefix_or_prefix_of_prefix hw hpart with hleft | hright
  · rcases List.prefix_concat_iff.mp hleft with rfl | hleft
    · exact absurd (List.mem_append_right t (List.mem_singleton_self d)) h
    · exact hleft
  · exact absurd (hright.subset (List.mem_append_right t (List.mem_singleton_self d))) h

theorem dropRightWhile_of_all {p : Char → Bool} {t u : Text} (h : ∀ c ∈ u, p c = true)
    (ht : ∀ c ∈ t.getLast?, p c = false) : dropRightWhile p (t ++ u) = t := by
  rw [dropRightWhile, List.reverse_append, dropWhile_of_all, List.reverse_reverse]
  · exact fun c hc => h c (List.mem_reverse.mp hc)
  · rwa [List.head?_reverse]

theorem dropRightWhile_of_last {p : Char → Bool} {t : Text} (h : ∀ c ∈ t.getLast?, p c = false) :
    dropRightWhile p t = t := by
  have hdrop := dropRightWhile_of_all (u := []) (by simp) h
  rwa [List.append_nil] at hdrop

/-- Trimming gives the trimmed middle of a text. -/
theorem strip_eq {before middle after : Text} (hb : Blanks before) (ha : Blanks after)
    (hm : Trimmed middle) : strip (before ++ middle ++ after) = middle := by
  rw [strip, stripLeft, List.append_assoc]
  cases middle with
  | nil =>
      have hall : Blanks (before ++ ([] ++ after)) := by
        intro c hc
        rcases List.mem_append.mp hc with hc | hc
        · exact hb c hc
        · exact ha c hc
      have hnone : (before ++ ([] ++ after)).dropWhile isBlank = [] := by
        simpa using dropWhile_of_all hall (u := []) (by simp)
      rw [hnone]
      rfl
  | cons c middle =>
      rw [dropWhile_of_all hb (by simpa using hm.1)]
      exact dropRightWhile_of_all ha hm.2

theorem strip_of_trimmed {t : Text} (h : Trimmed t) : strip t = t := by
  simpa using strip_eq blanks_nil blanks_nil h

theorem strip_of_blanks {t : Text} (h : Blanks t) : strip t = [] := by
  simpa using strip_eq h blanks_nil trimmed_nil

theorem head_dropWhile (p : Char → Bool) (t : Text) : ∀ c ∈ (t.dropWhile p).head?, p c = false := by
  induction t with
  | nil => simp
  | cons c t ih =>
      by_cases hc : p c = true
      · rwa [List.dropWhile_cons_of_pos hc]
      · rw [List.dropWhile_cons_of_neg hc]
        simpa using hc

theorem dropRightWhile_append (p : Char → Bool) (t : Text) :
    dropRightWhile p t ++ (t.reverse.takeWhile p).reverse = t := by
  rw [dropRightWhile, ← List.reverse_append, List.takeWhile_append_dropWhile, List.reverse_reverse]

/-- A text is a text without blanks at its end and blanks. -/
theorem exists_stripRight (t : Text) :
    ∃ w, Blanks w ∧ t = stripRight t ++ w ∧ ∀ c ∈ (stripRight t).getLast?, isBlank c = false := by
  refine ⟨(t.reverse.takeWhile isBlank).reverse, fun c hc => ?_,
    (dropRightWhile_append isBlank t).symm, ?_⟩
  · exact List.mem_takeWhile_imp (List.mem_reverse.mp hc)
  · rw [stripRight, dropRightWhile, List.getLast?_reverse]
    exact head_dropWhile isBlank _

theorem mem_of_mem_stripRight {t : Text} {c : Char} (h : c ∈ stripRight t) : c ∈ t := by
  obtain ⟨w, -, ht, -⟩ := exists_stripRight t
  rw [ht]
  exact List.mem_append_left w h

theorem stripRight_append_blanks {w : Text} (hw : Blanks w) (t : Text) :
    stripRight (t ++ w) = stripRight t := by
  obtain ⟨v, hv, ht, hlast⟩ := exists_stripRight t
  conv => lhs; rw [ht, List.append_assoc]
  exact dropRightWhile_of_all (hv.append hw) hlast

/-- The middle that trimming gives stands between blanks. -/
theorem exists_strip (t : Text) :
    ∃ before after, t = before ++ strip t ++ after ∧ Blanks before ∧ Blanks after
      ∧ Trimmed (strip t) := by
  obtain ⟨after, hafter, hright, hlast⟩ := exists_stripRight (stripLeft t)
  rw [← strip] at hright hlast
  refine ⟨t.takeWhile isBlank, after, ?_, fun c hc => List.mem_takeWhile_imp hc, hafter, ?_, hlast⟩
  · rw [List.append_assoc, ← hright, stripLeft, List.takeWhile_append_dropWhile]
  · intro c hc
    refine head_dropWhile isBlank t c ?_
    rw [← stripLeft, hright, List.head?_append, Option.mem_def.mp hc]
    rfl

theorem mem_of_mem_strip {t : Text} {c : Char} (h : c ∈ strip t) : c ∈ t := by
  obtain ⟨before, after, ht, -⟩ := exists_strip t
  rw [ht]
  exact List.mem_append_left _ (List.mem_append_right _ h)

theorem length_strip_le (t : Text) : (strip t).length ≤ t.length := by
  obtain ⟨before, after, ht, -⟩ := exists_strip t
  have hlength := congrArg List.length ht
  simp only [List.length_append] at hlength
  omega

theorem trimmed_strip (t : Text) : Trimmed (strip t) := by
  obtain ⟨-, -, -, -, -, h⟩ := exists_strip t
  exact h

theorem strip_strip (t : Text) : strip (strip t) = strip t := strip_of_trimmed (trimmed_strip t)

/-- Blanks around a text do not count. -/
theorem strip_blanks {before after : Text} (hb : Blanks before) (ha : Blanks after) (t : Text) :
    strip (before ++ t ++ after) = strip t := by
  obtain ⟨before', after', ht, hb', ha', hm⟩ := exists_strip t
  have hsplit : before ++ t ++ after = (before ++ before') ++ strip t ++ (after' ++ after) := by
    conv => lhs; rw [ht]
    simp only [List.append_assoc]
  rw [hsplit]
  exact strip_eq (hb.append hb') (ha'.append ha) hm

theorem strip_blank_cons (t : Text) : strip (' ' :: strip t) = strip t := by
  have hstrip := strip_blanks blanks_blank blanks_nil (strip t)
  rwa [List.append_nil, List.singleton_append, strip_strip] at hstrip

theorem strip_eq_nil_iff {t : Text} : strip t = [] ↔ Blanks t := by
  refine ⟨fun h => ?_, strip_of_blanks⟩
  obtain ⟨before, after, ht, hb, ha, -⟩ := exists_strip t
  rw [ht, h, List.append_nil]
  exact hb.append ha

theorem isBlankText_eq_false_iff {t : Text} : isBlankText t = false ↔ strip t ≠ [] := by
  rw [ne_eq, strip_eq_nil_iff, ← isBlankText_iff, Bool.not_eq_true]

theorem strip?_eq_some_iff {t w : Text} : strip? t = some w ↔ strip t = w ∧ w ≠ [] := by
  unfold strip?
  split
  next hnil =>
    rw [hnil]
    constructor
    · rintro ⟨⟩
    · rintro ⟨rfl, hne⟩
      exact absurd rfl hne
  next hne =>
    rw [Option.some_inj]
    constructor
    · rintro rfl
      exact ⟨rfl, hne⟩
    · exact fun h => h.1

theorem trimmed_of_no_blank {t : Text} (h : ∀ c ∈ t, isBlank c = false) : Trimmed t :=
  ⟨fun c hc => h c (List.mem_of_mem_head? hc), fun c hc => h c (List.mem_of_getLast? hc)⟩

/-- Between trimmed texts may stand what will. -/
theorem Trimmed.append {first last : Text} (hfirst : Trimmed first) (hlast : Trimmed last)
    (hne : first ≠ []) (hne' : last ≠ []) (between : Text) :
    Trimmed (first ++ (between ++ last)) := by
  constructor
  · obtain ⟨c, first, rfl⟩ := List.exists_cons_of_ne_nil hne
    exact hfirst.1
  · obtain ⟨c, hc⟩ := Option.isSome_iff_exists.mp (List.getLast?_isSome.mpr hne')
    rw [List.getLast?_append, List.getLast?_append, hc, Option.some_or, Option.some_or]
    exact fun d hd => hlast.2 d (hc.trans hd)

/-- Trimming keeps a trimmed beginning. -/
theorem prefix_strip {first t : Text} (h : Trimmed first) (hne : first ≠ []) (ht : first <+: t) :
    first <+: strip t := by
  obtain ⟨rest, rfl⟩ := ht
  have hleft : stripLeft (first ++ rest) = first ++ rest := by
    refine dropWhile_of_head fun c hc => h.1 c ?_
    obtain ⟨d, first, rfl⟩ := List.exists_cons_of_ne_nil hne
    exact hc
  rw [strip, hleft, stripRight, dropRightWhile, List.reverse_append, List.dropWhile_append]
  split
  · have hlast : first.reverse.dropWhile isBlank = first.reverse :=
      dropWhile_of_head fun c hc => h.2 c (by rwa [List.head?_reverse] at hc)
    simp only [hlast, List.reverse_reverse, List.prefix_rfl]
  · rw [List.reverse_append, List.reverse_reverse]
    exact List.prefix_append first _

end BankStatement.Text
