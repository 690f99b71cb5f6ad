import BankStatement.Proofs.Bank.BarclaysOverview

/-!
# Fees on Barclays overviews

A row of fees (`FeeRow`) is written as `ART: NAME dd.mm.yy TOTAL- DESCRIPTION AMOUNT`. Its name ends
where date and total begin (`name_run`), since no date stands in a name. Its description ends where
the first price behind a blank stands (`detail_run`), and this need not be the amount at the end.

So a row is read as what it says exactly when it is regular (`readRecord_iff_regular`): a single
word stands in front of the colon, total and amount have no more than three digits in front of the
comma, and no price stands in the description.

The two directions have different proofs. That regular rows are read follows the search part by
part, from the description backwards, and shows which of the divisions of a row is the first to be
tried with success (`search_text`). That no other row is read as what it says starts from a match
and the division it gives, without asking how it was found: the name and the description of the
movement tell where the parts stand (`isShort_of_divides`), and a price in the description would
have ended it earlier (`description_of_readRecord`).

A total of four digits is written with a point, which the pattern does not know, although the
pattern for the other table of these statements does. Such a row is skipped without an error, and
its fee is missing from the import.
-/

namespace BankStatement.BarclaysOverview

open Pattern Pattern.Node Pattern.German
open Text (Blanks Digits Trimmed)

variable {a b : GermanAmount}

/-! ## Rows of fees -/

/-- A text that stands between blanks on a line. -/
structure IsCell (t : Text) : Prop where
  trimmed : Trimmed t
  ne_nil : t ≠ []
  inLine : '\n' ∉ t

/-- A text in front of the date of a row. -/
structure IsTitle (t : Text) : Prop extends IsCell t where
  noColon : ':' ∉ t
  noDate : ∀ day, IsDateWith 2 day → ¬ day <:+: t

/-- A row of the table, as `ART: NAME dd.mm.yy TOTAL- DESCRIPTION AMOUNT`; the part up to the colon
may be missing. -/
structure FeeRow where
  art : Option Text
  name : Text
  date : Date
  total : GermanAmount
  description : Text
  amount : GermanAmount
  art_title : ∀ t ∈ art, IsTitle t
  name_title : IsTitle name
  date_short : date.HasShortYear
  description_cell : IsCell description

namespace FeeRow

/-- The part up to the colon, with the blank behind it. -/
def front (r : FeeRow) : Text :=
  match r.art with
  | none => []
  | some art => art ++ [':', ' ']

/-- The description and the amount at the end. -/
def ending (r : FeeRow) : Text := r.description ++ ' ' :: r.amount.unsigned

def text (r : FeeRow) : Text :=
  r.front ++ (r.name ++ ' ' :: (r.date.short ++ ' ' :: (r.total.unsigned
    ++ '-' :: ' ' :: r.ending)))

/-- What the row says: its amount is booked as a charge. -/
def movement (r : FeeRow) (today : Date) : Movement where
  bookingDate := some r.date
  counterparty := some r.name
  subject := some r.description
  amount := ⟨true, r.amount.count, -2⟩
  isPreview := today.isBefore r.date

/-- The rows that the rule is made for: a single word in front of the colon, no more than three
digits in front of the commas, and no price behind a blank of the description. -/
structure IsRegular (r : FeeRow) : Prop where
  art : ∀ t ∈ r.art, ∀ c ∈ t, isWordChar c = true
  total : IsShort r.total
  amount : IsShort r.amount
  description : ∀ before g p after, IsGap g → IsPrice p →
    r.description ≠ before ++ (g ++ (p ++ after))

end FeeRow

/-! ## What is found in a row -/

theorem isDateWith_short (d : Date) : IsDateWith 2 d.short := by
  obtain ⟨-, hday, -, hmonth, -, -⟩ := d.bounds
  exact ⟨_, _, _, ⟨Text.digits_padded 2 d.day, Text.length_padded (by decide) (by omega)⟩,
    ⟨Text.digits_padded 2 d.month, Text.length_padded (by decide) (by omega)⟩,
    ⟨Text.digits_padded 2 (d.year % 100),
      Text.length_padded (by decide) (Nat.mod_lt _ (by decide))⟩, rfl⟩

theorem IsCell.head {t : Text} (h : IsCell t) (rest : Text) :
    ∀ c ∈ (t ++ rest).head?, isBlank c = false := by
  rw [List.head?_append_of_ne_nil _ h.ne_nil]
  exact h.trimmed.1

/-- A word behind blanks of a cell lies in the cell. -/
theorem IsCell.exists_after {t g w x : Text} (h : IsCell t) {i : Nat} (hi : i < t.length)
    (hg : Blanks g) (hhead : ∀ rest, ∀ c ∈ (w ++ rest).head?, isBlank c = false) (hw : ' ' ∉ w)
    (hstart : g ++ w <+: t.drop i ++ ' ' :: x) : ∃ after, t.drop i = g ++ (w ++ after) := by
  obtain ⟨c, hc⟩ := Option.isSome_iff_exists.mp (List.getLast?_isSome.mpr h.ne_nil)
  -- the last character of the cell is no blank, so more than blanks is left of it
  have hleft : (t.drop i).dropWhile isBlank ≠ [] := fun hnil => by
    have hblank : isBlank c = true := by
      refine List.dropWhile_eq_nil_iff.mp hnil c (List.mem_of_getLast? ?_)
      rw [List.getLast?_drop, if_neg (by omega), hc]
    rw [h.trimmed.2 c hc] at hblank
    cases hblank
  have hsplit := List.takeWhile_append_dropWhile (p := isBlank) (l := t.drop i)
  have hbefore : Blanks ((t.drop i).takeWhile isBlank) := fun c hc => List.mem_takeWhile_imp hc
  have hafter := Text.head_dropWhile isBlank (t.drop i)
  generalize (t.drop i).takeWhile isBlank = before at hsplit hbefore
  generalize (t.drop i).dropWhile isBlank = after at hsplit hafter hleft
  obtain ⟨rest, hrest⟩ := hstart
  rw [← hsplit, List.append_assoc, List.append_assoc] at hrest
  have hafter' : ∀ c ∈ (after ++ ' ' :: x).head?, isBlank c = false := by
    obtain ⟨d, after, rfl⟩ := List.exists_cons_of_ne_nil hleft
    exact hafter
  obtain ⟨rfl, hsame⟩ := Text.append_inj_of_all hg hbefore (hhead _) hafter' hrest
  obtain ⟨last, rfl⟩ := (Text.prefix_append_cons_iff hw).mp ⟨rest, hsame⟩
  exact ⟨last, hsplit.symm⟩

/-- No date stands in a title, so date and total are not found within the name of a row, however the
name is cut short. -/
theorem not_booked_of_lt {t x : Text} (h : IsTitle t) {i : Nat} (hi : i < t.length) (w : Text)
    (marks : List (Nat × Text)) (hw : BookedMarks w marks) : ¬ w <+: t.drop i ++ ' ' :: x := by
  obtain ⟨g, day, g', total, hg, hday, -, -, rfl, -⟩ := hw
  intro hstart
  have hblank : ' ' ∉ day := fun hmem => by
    have hblank := hday.notBlank hmem
    revert hblank
    decide
  have hfront : g ++ day <+: t.drop i ++ ' ' :: x := by
    refine List.IsPrefix.trans ?_ hstart
    rw [← List.append_assoc]
    exact List.prefix_append _ _
  obtain ⟨after, hafter⟩ := h.exists_after hi hg.1 hday.head hblank hfront
  refine h.noDate day hday ⟨t.take i ++ g, after, ?_⟩
  conv => rhs; rw [← List.take_append_drop i t, hafter]
  simp only [List.append_assoc]

/-- The first price behind a blank of a text, and the characters in front of the blank. -/
structure IsFirstPrice (t : Text) (count : Nat) (p : Text) : Prop where
  pos : 0 < count
  isPrice : IsPrice p
  stands : ∃ g, IsGap g ∧ g ++ p <+: t.drop count
  first : ∀ i, 0 < i → i < count → ∀ g q, IsGap g → IsPrice q → ¬ g ++ q <+: t.drop i

theorem IsFirstPrice.lt_length {t q : Text} {count : Nat} (h : IsFirstPrice t count q) :
    count < t.length := by
  obtain ⟨g, hg, hstart⟩ := h.stands
  have hlength := hstart.length_le
  have hpos : 0 < g.length := List.length_pos_iff.mpr hg.2
  rw [List.length_append, List.length_drop] at hlength
  omega

/-- The description ends where the first price behind a blank stands: its repetition is lazy, so
every shorter description is tried first and fails for want of a price. -/
theorem detail_run {s : Spot} {t q : Text} {count : Nat} (hs : s.ahead = ' ' :: t)
    (hhead : ∀ c ∈ t.head?, isBlank c = false) (hline : '\n' ∉ t) (h : IsFirstPrice t count q) :
    ∃ n, detail.run false s some = some ((s.skip n).mark [(6, q), (5, t.take count)]) := by
  obtain ⟨g, hg, hstart⟩ := h.stands
  have hahead : (s.skip 1).ahead = t := by rw [Spot.ahead_skip, hs]; rfl
  have hgap : s.ahead.takeWhile isBlank = [' '] := by
    rw [hs, ← List.singleton_append, Text.takeWhile_of_all isGap_blank.1 hhead]
  have hclose {i : Nat} (hi : i ≤ t.length) :
      Spot.close 5 (s.skip 1) ((s.skip 1).skip i) = (s.skip (1 + i)).mark [(5, t.take i)] := by
    rw [Spot.close_take 5 (hahead ▸ hi), hahead, Spot.skip_skip]
  have hrest (i : Nat) : ((s.skip (1 + i)).mark [(5, t.take i)]).ahead = t.drop i := by
    rw [Spot.ahead_mark, ← Spot.skip_skip, Spot.ahead_skip, hahead]
  have hrun : count ≤ ((s.skip 1).ahead.takeWhile (· != '\n')).length := by
    rw [hahead, List.takeWhile_eq_self_iff.mpr]
    · exact Nat.le_of_lt h.lt_length
    · exact fun c hc => bne_iff_ne.mpr (ne_of_mem_of_not_mem hc hline)
  have honly (v : Text) (more : List (Nat × Text)) (hv : PriceMarks v more)
      (hva : v <+: t.drop count) : v = g ++ q ∧ more = [(6, q)] := by
    obtain ⟨g', q', hg', hq', rfl, rfl⟩ := hv
    obtain ⟨x, hx⟩ := hstart
    obtain ⟨y, hy⟩ := hva
    rw [← hx, List.append_assoc, List.append_assoc] at hy
    obtain ⟨rfl, hsame⟩ := Text.append_inj_of_all hg'.1 hg.1 (hq'.head _) (h.isPrice.head _) hy
    rw [hq'.unique h.isPrice ⟨y, hsame⟩ ⟨x, rfl⟩]
    exact ⟨rfl, rfl⟩
  refine ⟨1 + count + (g ++ q).length, ?_⟩
  show gap.run false s (fun u => (Node.times .anyChar 1 none false).run false u
    fun v => priced.run false (Spot.close 5 u v) some) = _
  refine run_greedy oneChar_blank ?_ ?_
  · rw [hgap]
    exact Nat.le_refl 1
  rw [hgap, List.length_singleton]
  refine run_lazy (oneChar_anyChar false) (Nat.succ_le_of_lt h.pos) hrun ?_ fun i hpos hi => ?_
  · rw [hclose (Nat.le_of_lt h.lt_length), priced_captures.run_of_only
      ⟨g, q, hg, h.isPrice, rfl, rfl⟩ (by rw [hrest]; exact hstart) (by rw [hrest]; exact honly),
      Spot.skip_mark, Spot.mark_mark, Spot.skip_skip]
    rfl
  · have hlength := h.lt_length
    rw [hclose (by omega)]
    refine priced_captures.run_eq_none ?_
    rintro _ _ ⟨g', q', hg', hq', rfl, rfl⟩ hva
    rw [hrest] at hva
    exact h.first i hpos hi g' q' hg' hq' hva

namespace FeeRow

variable {r : FeeRow} {s found : Spot}

/-- The text between name and description. -/
def middle (r : FeeRow) : Text := ' ' :: (r.date.short ++ ' ' :: (r.total.unsigned ++ ['-']))

theorem bookedMarks_middle (htotal : IsShort r.total) :
    BookedMarks r.middle [(4, r.total.unsigned), (3, r.date.short)] :=
  ⟨[' '], r.date.short, [' '], r.total.unsigned, isGap_blank, isDateWith_short _, isGap_blank,
    ⟨r.total, htotal, rfl⟩, rfl, rfl⟩

/-- Behind the name only the date of the row and its total can be booked, which makes what is found
there the same in every division. -/
theorem eq_middle {x w : Text} {marks : List (Nat × Text)} (hw : BookedMarks w marks)
    (h : w <+: r.middle ++ x) :
    w = r.middle ∧ marks = [(4, r.total.unsigned), (3, r.date.short)] := by
  obtain ⟨g, day, g', _, hg, hday, hg', ⟨a, -, rfl⟩, rfl, rfl⟩ := hw
  obtain ⟨rest, hrest⟩ := h
  have heq : g ++ (day ++ (g' ++ (a.unsigned ++ '-' :: rest)))
      = [' '] ++ (r.date.short ++ ([' '] ++ (r.total.unsigned ++ '-' :: x))) := by
    simpa [middle] using hrest
  obtain ⟨rfl, rfl, rfl, htotal, -⟩ := booked_unique hg.1 isGap_blank.1 hg'.1 isGap_blank.1 hday
    (isDateWith_short _) heq
  rw [htotal]
  exact ⟨rfl, rfl⟩

/-- The name ends where the date and the total begin. -/
theorem name_run {x : Text} (hs : s.ahead = r.name ++ (r.middle ++ x)) (htotal : IsShort r.total)
    (hfound : detail.run false ((s.skip (r.name.length + r.middle.length)).mark
      [(4, r.total.unsigned), (3, r.date.short), (2, r.name)]) some = some found) :
    (Node.seq title (.seq booked detail)).run false s some = some found := by
  have hclose {i : Nat} (hi : i ≤ r.name.length) :
      Spot.close 2 s (s.skip i) = (s.skip i).mark [(2, r.name.take i)] := by
    have hlength : i ≤ s.ahead.length := by
      rw [hs, List.length_append]
      omega
    rw [Spot.close_take 2 hlength, hs, List.take_append_of_le_length hi]
  have hahead {i : Nat} (hi : i ≤ r.name.length) :
      ((s.skip i).mark [(2, r.name.take i)]).ahead = r.name.drop i ++ (r.middle ++ x) := by
    rw [Spot.ahead_mark, Spot.ahead_skip, hs, List.drop_append_of_le_length hi]
  have hline : r.name.length ≤ (s.ahead.takeWhile (· != '\n')).length := by
    rw [hs, List.takeWhile_append_of_pos, List.length_append]
    · exact Nat.le_add_right _ _
    · exact fun c hc => bne_iff_ne.mpr (ne_of_mem_of_not_mem hc r.name_title.inLine)
  show (Node.times .anyChar 0 none false).run false s (fun t => booked.run false (Spot.close 2 s t)
    fun u => detail.run false u some) = _
  refine run_lazy (oneChar_anyChar false) (Nat.zero_le _) hline ?_ fun i _ hi => ?_
  · have hfront :
        r.middle <+: ((s.skip r.name.length).mark [(2, r.name.take r.name.length)]).ahead := by
      rw [hahead (Nat.le_refl _), List.drop_length, List.nil_append]
      exact List.prefix_append _ _
    rw [hclose (Nat.le_refl _), booked_captures.run_of_only (bookedMarks_middle htotal) hfront]
    · rw [← hfound, Spot.skip_mark, Spot.mark_mark, Spot.skip_skip, List.take_length]
      rfl
    · intro v more hv hva
      rw [hahead (Nat.le_refl _), List.drop_length, List.nil_append] at hva
      exact eq_middle hv hva
  · rw [hclose (Nat.le_of_lt hi)]
    refine booked_captures.run_eq_none fun w marks hw hwa => ?_
    rw [hahead (Nat.le_of_lt hi)] at hwa
    exact not_booked_of_lt r.name_title hi w marks hw hwa

/-! ### The front of a row -/

theorem text_eq (r : FeeRow) : r.text = r.front ++ (r.name ++ (r.middle ++ ' ' :: r.ending)) := by
  simp [text, middle]

/-- Blanks are passed as a whole. -/
theorem blanks_run {n : Node} {g x : Text} (hs : s.ahead = g ++ x) (hg : Blanks g)
    (hx : ∀ c ∈ x.head?, isBlank c = false)
    (hfound : n.run false (s.skip g.length) some = some found) :
    (Node.seq blanks n).run false s some = some found := by
  have hgap : s.ahead.takeWhile isBlank = g := by rw [hs, Text.takeWhile_of_all hg hx]
  show blanks.run false s (fun t => n.run false t some) = _
  refine run_greedy oneChar_blank (Nat.zero_le _) ?_
  rw [hgap, hfound]

theorem isBlank_of_isWordChar {c : Char} (h : isWordChar c = true) : isBlank c = false := by
  rw [Bool.eq_false_iff]
  intro hblank
  rw [isWordChar, isAlphanumeric_of_isBlank hblank, Bool.or_false, beq_iff_eq] at h
  subst h
  revert hblank
  decide

/-- On a line that does not begin with a blank, a label begins with its word. -/
theorem eq_of_labelMarks {w t : Text} {marks : List (Nat × Text)} (hw : LabelMarks w marks)
    (h : w <+: t) (hhead : ∀ c ∈ t.head?, isBlank c = false) :
    ∃ art, (∀ c ∈ art, isWordChar c = true) ∧ w = art ++ [':'] ∧ marks = [(1, art)] := by
  obtain ⟨before, art, hbefore, hne, hart, rfl, rfl⟩ := hw
  obtain ⟨rest, hrest⟩ := h
  have hword : ∀ c ∈ (art ++ ([':'] ++ rest)).head?, isBlank c = false := by
    obtain ⟨c, art, rfl⟩ := List.exists_cons_of_ne_nil hne
    rintro _ ⟨⟩
    exact isBlank_of_isWordChar (hart c List.mem_cons_self)
  obtain ⟨rfl, -⟩ : before = [] ∧ art ++ ([':'] ++ rest) = t :=
    Text.append_inj_of_all hbefore Text.blanks_nil hword hhead (by simpa using hrest)
  exact ⟨art, hart, rfl, rfl⟩

theorem notMem_word {t : Text} (h : ∀ c ∈ t, isWordChar c = true) {c : Char}
    (hc : isWordChar c = false) : c ∉ t :=
  fun hmem => ne_of_class (h c hmem) hc rfl

/-- A row without a label does not begin with one: a label is a single word up to a colon, and a
title followed by a blank holds no colon that ends its first word. -/
theorem not_labelMarks {t x w : Text} {marks : List (Nat × Text)} (h : IsTitle t)
    (hw : LabelMarks w marks) : ¬ w <+: t ++ ' ' :: x := by
  intro hstart
  obtain ⟨art, hart, rfl, -⟩ := eq_of_labelMarks hw hstart (h.head _)
  have hblank : ' ' ∉ art ++ [':'] := by
    rw [List.mem_append, not_or]
    exact ⟨notMem_word hart (by decide), by decide⟩
  exact h.noColon (((Text.prefix_append_cons_iff hblank).mp hstart).subset
    (List.mem_append_right art List.mem_cons_self))

/-- The label of a row is the text in front of its colon. -/
theorem labelMarks_unique {t x w : Text} {marks : List (Nat × Text)} (h : IsTitle t)
    (hw : LabelMarks w marks) (hstart : w <+: t ++ ':' :: x) :
    w = t ++ [':'] ∧ marks = [(1, t)] ∧ ∀ c ∈ t, isWordChar c = true := by
  obtain ⟨art, hart, rfl, rfl⟩ := eq_of_labelMarks hw hstart (h.head _)
  obtain ⟨y, hy⟩ := hstart
  rw [List.append_assoc] at hy
  obtain ⟨rfl, -⟩ := Text.append_cons_inj (notMem_word hart (by decide)) h.noColon hy
  exact ⟨rfl, rfl, hart⟩

theorem label_run_eq_none {t x : Text} (hs : s.ahead = t ++ ' ' :: x) (h : IsTitle t)
    (k : Pattern.Continuation) : label.run false s k = none :=
  label_captures.run_eq_none fun _ _ hw hwa => not_labelMarks h hw (hs ▸ hwa)

theorem label_run {art x : Text} (hs : s.ahead = art ++ ':' :: x) (h : IsTitle art)
    (hart : ∀ c ∈ art, isWordChar c = true) (k : Pattern.Continuation) :
    label.run false s k = k ((s.skip (art.length + 1)).mark [(1, art)]) := by
  have hmarks : LabelMarks (art ++ [':']) [(1, art)] :=
    ⟨[], art, Text.blanks_nil, h.ne_nil, hart, rfl, rfl⟩
  have hstart : art ++ [':'] <+: s.ahead := ⟨x, by rw [hs, List.append_assoc]; rfl⟩
  have hrun := label_captures.run_of_only hmarks hstart (k := k) fun v more hv hva => by
    obtain ⟨hsame, hmore, -⟩ := labelMarks_unique h hv (hs ▸ hva)
    exact ⟨hsame, hmore⟩
  rwa [List.length_append, List.length_singleton] at hrun

theorem head_ending (r : FeeRow) : ∀ c ∈ r.ending.head?, isBlank c = false :=
  r.description_cell.head _

theorem notMem_ending (r : FeeRow) : '\n' ∉ r.ending := by
  rw [ending, List.mem_append, List.mem_cons, not_or, not_or]
  exact ⟨r.description_cell.inLine, by decide, notMem_unsigned r.amount (by decide) (by decide)⟩

/-- What follows the label of a row is divided into its other parts. -/
theorem exists_run {count : Nat} {q : Text} (hs : s.ahead = r.name ++ (r.middle ++ ' ' :: r.ending))
    (htotal : IsShort r.total) (h : IsFirstPrice r.ending count q) :
    ∃ n, (Node.seq title (.seq booked detail)).run false s some
      = some ((s.skip n).mark [(6, q), (5, r.ending.take count), (4, r.total.unsigned),
        (3, r.date.short), (2, r.name)]) := by
  have hahead : ((s.skip (r.name.length + r.middle.length)).mark
      [(4, r.total.unsigned), (3, r.date.short), (2, r.name)]).ahead = ' ' :: r.ending := by
    rw [Spot.ahead_mark, Spot.ahead_skip, hs, ← List.append_assoc, ← List.length_append,
      List.drop_left]
  obtain ⟨n, hn⟩ := detail_run hahead r.head_ending r.notMem_ending h
  refine ⟨r.name.length + r.middle.length + n, ?_⟩
  rw [name_run hs htotal hn, Spot.skip_mark, Spot.mark_mark, Spot.skip_skip]
  rfl

/-- A row with a word in front of the colon and a short total is divided at the first price behind a
blank of its ending. -/
theorem search_text {count : Nat} {q : Text}
    (hart : ∀ t ∈ r.art, ∀ c ∈ t, isWordChar c = true) (htotal : IsShort r.total)
    (h : IsFirstPrice r.ending count q) :
    general.search? r.text
      = some (Parts.found
        ⟨r.art, r.name, r.date.short, r.total.unsigned, r.ending.take count, q⟩) := by
  have hname : ∀ c ∈ (r.name ++ (r.middle ++ ' ' :: r.ending)).head?, isBlank c = false :=
    r.name_title.head _
  have htext := r.text_eq
  rw [search_general]
  show (((Node.times label 0 (some 1) true).run false ⟨0, none, r.text, []⟩
    fun s => (Node.seq blanks (.seq title (.seq booked detail))).run false s some).map _) = _
  rw [run_optional]
  cases hlabel : r.art with
  | none =>
      rw [front, hlabel, List.nil_append] at htext
      obtain ⟨n, hn⟩ := exists_run (s := ⟨0, none, r.text, []⟩) htext htotal h
      rw [label_run_eq_none (t := r.name) htext r.name_title, Option.none_or,
        blanks_run (g := []) htext Text.blanks_nil hname hn]
      simp [Parts.found, Spot.mark]
  | some art =>
      have htitle : IsTitle art := r.art_title art hlabel
      rw [front, hlabel, List.append_assoc] at htext
      rw [label_run htext htitle (hart art hlabel)]
      generalize hspot : (Spot.skip (art.length + 1) ⟨0, none, r.text, []⟩).mark [(1, art)] = s
      have hs : s.ahead = [' '] ++ (r.name ++ (r.middle ++ ' ' :: r.ending)) := by
        rw [← hspot, Spot.ahead_mark, Spot.ahead_skip, htext, ← List.drop_drop, List.drop_left]
        rfl
      have hgroups : s.groups = [(1, art)] := by
        rw [← hspot, Spot.mark, Spot.groups_skip]
        rfl
      obtain ⟨n, hn⟩ := exists_run (s := s.skip 1) (by rw [Spot.ahead_skip, hs]; rfl) htotal h
      rw [blanks_run hs isGap_blank.1 hname hn]
      simp [Parts.found, Spot.mark, hgroups]

/-! ### What is read of a row -/

/-- A short amount is not rounded. -/
theorem charge_eq (hb : IsShort b) :
    Decimal.round ⟨false, b.count, -2⟩ * Decimal.ofInt (-1) = ⟨true, b.count, -2⟩ := by
  have hlength : (b.whole ++ b.cents).length ≤ 5 := by
    have hlead := hb.2
    rw [GermanAmount.whole, hb.1, List.flatten_nil, List.append_nil, List.length_append,
      b.cents_length]
    omega
  have hcount : b.count < 10 ^ 5 :=
    Nat.lt_of_lt_of_le (Text.digitsValue?_lt b.digitsValue?_count)
      (Nat.pow_le_pow_right (by decide) hlength)
  have hdigits : Decimal.digitCount b.count ≤ Decimal.precision := by
    rw [Decimal.digitCount_le_iff (by decide), Decimal.tenTo, Nat.pow_eq]
    exact Nat.lt_of_lt_of_le hcount (by decide)
  rw [Decimal.round_of_le hdigits]
  exact (Decimal.mul_unit ⟨false, b.count, -2⟩ true).trans (Decimal.round_of_le hdigits)

/-- A row is read with the first price behind a blank of its ending, and with what stands in front
of it as description. That price is the amount of the row only if none comes before. -/
theorem readRecord_text {count : Nat} (hart : ∀ t ∈ r.art, ∀ c ∈ t, isWordChar c = true)
    (htotal : IsShort r.total) (hb : IsShort b) (h : IsFirstPrice r.ending count b.unsigned)
    (today : Date) (withAdditional : Bool) (header : Header) :
    Bundled.barclaysGeneralTable.readRecord Bundled.barclaysOverview today withAdditional r.text
        header
      = (header, .ok (some { r.movement today with
          subject := some (Text.strip (r.ending.take count))
          amount := ⟨true, b.count, -2⟩ })) := by
  have hdate : Bundled.barclaysOverview.readDate MovementVariable.bookingDate.label
      (some r.date.short) = .ok r.date :=
    Template.readDate_short datesShort_overview _ r.date_short
  have hday : r.date.short ≠ [] :=
    List.ne_nil_of_length_pos (by rw [(isDateWith_short r.date).length]; decide)
  have hdescription : r.ending.take count ≠ [] := by
    have hpos := h.pos
    have hlength := h.lt_length
    exact List.ne_nil_of_length_pos (by rw [List.length_take]; omega)
  rw [readRecord_of_found (search_text hart htotal h) hday hdescription rfl]
  show (header, ((Bundled.barclaysOverview.readDate _ (some r.date.short)).map _)) = _
  rw [hdate]
  simp only [Except.map, Parts.movement, movement, charge_eq hb, if_neg r.name_title.ne_nil,
    Text.strip_of_trimmed r.name_title.trimmed]

/-- The description of a regular row ends where its amount stands. -/
theorem IsRegular.isFirstPrice (h : r.IsRegular) :
    IsFirstPrice r.ending r.description.length r.amount.unsigned where
  pos := List.length_pos_iff.mpr r.description_cell.ne_nil
  isPrice := ⟨r.amount, h.amount, rfl⟩
  stands := ⟨[' '], isGap_blank, by rw [ending, List.drop_left]; exact List.prefix_rfl⟩
  first := by
    intro i _ hi g q hg hq hstart
    have hblank : ' ' ∉ q := by
      obtain ⟨a, -, rfl⟩ := hq
      exact notMem_unsigned a (by decide) (by decide)
    rw [ending, List.drop_append_of_le_length (Nat.le_of_lt hi)] at hstart
    obtain ⟨after, hafter⟩ :=
      r.description_cell.exists_after hi hg.1 hq.head hblank hstart
    refine h.description (r.description.take i) g q after hg hq ?_
    rw [← hafter, List.take_append_drop]

/-- The regular rows are read as what they say. -/
theorem readRecord_of_regular (h : r.IsRegular) (today : Date) (withAdditional : Bool)
    (header : Header) :
    Bundled.barclaysGeneralTable.readRecord Bundled.barclaysOverview today withAdditional r.text
        header
      = (header, .ok (some (r.movement today))) := by
  have hdescription : Text.strip (r.ending.take r.description.length) = r.description := by
    rw [ending, List.take_left, Text.strip_of_trimmed r.description_cell.trimmed]
  rw [readRecord_text h.art h.total h.amount h.isFirstPrice, hdescription]
  rfl

/-! ### Which rows are read as what they say -/

/-- A division at the name of a row begins with its label, if there is one, and goes on with its
date. -/
theorem front_eq {front gap day rest : Text} {art : Option Text} {between : Text}
    (hfront : IsFront front art) (hbetween : Blanks between) (hgap : Blanks gap)
    (hday : IsDateWith 2 day)
    (h : r.text = front ++ (between ++ (r.name ++ (gap ++ (day ++ rest))))) :
    (∀ t ∈ r.art, ∀ c ∈ t, isWordChar c = true)
      ∧ gap ++ (day ++ rest) = r.middle ++ ' ' :: r.ending := by
  have hname (x : Text) : ∀ c ∈ (r.name ++ x).head?, isBlank c = false := r.name_title.head x
  rw [text_eq, FeeRow.front] at h
  cases hart : r.art with
  | none =>
      rw [hart, List.nil_append] at h
      cases art with
      | none =>
          rw [show front = [] from hfront, List.nil_append] at h
          obtain ⟨-, hsame⟩ := Text.append_inj_of_all Text.blanks_nil hbetween (hname _) (hname _) h
          exact ⟨by simp, (List.append_cancel_left hsame).symm⟩
      | some art => exact absurd ⟨_, h.symm⟩ (not_labelMarks r.name_title hfront)
  | some t =>
      have htitle : IsTitle t := r.art_title t hart
      rw [hart, List.append_assoc] at h
      cases art with
      | none =>
          -- the name would have to stand in front of the colon, with the date behind it
          rw [show front = [] from hfront, List.nil_append] at h
          obtain ⟨-, hsame⟩ :=
            Text.append_inj_of_all Text.blanks_nil hbetween (htitle.head _) (hname _) h
          have hcolon : ':' ∉ r.name ++ (gap ++ day) := by
            simp only [List.mem_append, not_or]
            refine ⟨r.name_title.noColon, fun hmem => ?_, fun hmem => ?_⟩
            · exact absurd (hgap _ hmem) (by decide)
            · exact absurd (hday.mem hmem) (by decide)
          have hstart : r.name ++ (gap ++ day) <+: t :=
            (Text.prefix_append_cons_iff hcolon).mp ⟨rest, by simpa using hsame.symm⟩
          refine absurd (List.IsInfix.trans ?_ hstart.isInfix) (htitle.noDate day hday)
          rw [← List.append_assoc]
          exact (List.suffix_append _ day).isInfix
      | some art =>
          obtain ⟨rfl, -, ht⟩ := labelMarks_unique htitle hfront ⟨_, h.symm⟩
          rw [List.append_assoc] at h
          have hblank : [' '] ++ (r.name ++ (r.middle ++ ' ' :: r.ending))
              = between ++ (r.name ++ (gap ++ (day ++ rest))) :=
            (List.cons.inj (List.append_cancel_left h)).2
          obtain ⟨-, hsame⟩ :=
            Text.append_inj_of_all isGap_blank.1 hbetween (hname _) (hname _) hblank
          refine ⟨?_, (List.append_cancel_left hsame).symm⟩
          rintro _ ⟨⟩
          exact ht

/-- A division of a row at its name and its description has its total and its amount. As the texts
between them are forced, both are prices as they stand, which means that they are short. -/
theorem isShort_of_divides {p : Parts} (h : Divides r.text p) (hname : Text.strip p.name = r.name)
    (hdescription : Text.strip p.description = r.description) :
    (∀ t ∈ r.art, ∀ c ∈ t, isWordChar c = true) ∧ IsShort r.total ∧ IsShort r.amount := by
  obtain ⟨front, between, g₁, g₂, g₃, g₄, rest, hfront, hbetween, hg₁, hday, hg₂, ⟨c, hc, htotal⟩,
    hg₃, -, hg₄, hprice, hline⟩ := h
  obtain ⟨before, after, hsplit, hbefore, hafter, -⟩ := Text.exists_strip p.name
  obtain ⟨before', after', hsplit', hbefore', hafter', -⟩ := Text.exists_strip p.description
  rw [hname] at hsplit
  rw [hdescription] at hsplit'
  -- the blanks around name and description belong to the gaps
  have htext : r.text = front ++ ((between ++ before) ++ (r.name ++ ((after ++ g₁) ++ (p.day ++ (g₂
      ++ (c.unsigned ++ '-' :: ((g₃ ++ before') ++ (r.description ++ ((after' ++ g₄)
        ++ (p.price ++ rest)))))))))) := by
    rw [hline, hsplit, hsplit', htotal]
    simp only [List.append_assoc]
  obtain ⟨hart, hbooked⟩ :=
    front_eq hfront (hbetween.append hbefore) (hafter.append hg₁.1) hday htext
  have hmiddle : r.middle ++ ' ' :: r.ending
      = [' '] ++ (r.date.short ++ ([' '] ++ (r.total.unsigned ++ '-' :: ' ' :: r.ending))) := by
    simp [middle]
  obtain ⟨-, -, -, hsame, hending⟩ := booked_unique (hafter.append hg₁.1) isGap_blank.1 hg₂.1
    isGap_blank.1 hday (isDateWith_short r.date) (hbooked.trans hmiddle)
  obtain ⟨-, hdetail⟩ := Text.append_inj_of_all (hg₃.1.append hbefore') isGap_blank.1
    (r.description_cell.head _) r.head_ending hending
  have hamount : (after' ++ g₄) ++ (p.price ++ rest) = [' '] ++ (r.amount.unsigned ++ []) := by
    rw [List.append_nil]
    exact List.append_cancel_left hdetail
  obtain ⟨-, hstart⟩ := Text.append_inj_of_all (hafter'.append hg₄.1) isGap_blank.1
    (hprice.head rest) (head_unsigned r.amount []) hamount
  obtain ⟨b, hb, hbprice⟩ := hprice
  refine ⟨hart, (hc.of_start (hsame ▸ List.prefix_rfl)).1, (hb.of_start ⟨rest, ?_⟩).1⟩
  rw [hbprice, hstart, List.append_nil]

/-- Where a price stands behind a blank, there is a first one. -/
theorem exists_firstPrice {t g q : Text} {i : Nat} (hi : 0 < i) (hg : IsGap g) (hq : IsPrice q)
    (h : g ++ q <+: t.drop i) : ∃ count ≤ i, ∃ q, IsFirstPrice t count q := by
  classical
  have hex : ∃ n, 0 < n ∧ ∃ g q, IsGap g ∧ IsPrice q ∧ g ++ q <+: t.drop n :=
    ⟨i, hi, g, q, hg, hq, h⟩
  obtain ⟨hpos, g', q', hg', hq', hstart⟩ := Nat.find_spec hex
  refine ⟨Nat.find hex, Nat.find_min' hex ⟨hi, g, q, hg, hq, h⟩, q', hpos, hq',
    ⟨g', hg', hstart⟩, ?_⟩
  exact fun j hj hlt g q hg hq hstart => Nat.find_min hex hlt ⟨hj, g, q, hg, hq, hstart⟩

/-- A row with a price in its description is read with a shorter description, so never as what it
says. Its amount may even be right by chance; the description is not. -/
theorem description_of_readRecord (hart : ∀ t ∈ r.art, ∀ c ∈ t, isWordChar c = true)
    (htotal : IsShort r.total) {today : Date} {withAdditional : Bool} {header : Header}
    (h : Bundled.barclaysGeneralTable.readRecord Bundled.barclaysOverview today withAdditional
      r.text header = (header, .ok (some (r.movement today))))
    (before g q after : Text) (hg : IsGap g) (hq : IsPrice q) :
    r.description ≠ before ++ (g ++ (q ++ after)) := by
  intro hsplit
  have hgap : 0 < g.length := List.length_pos_iff.mpr hg.2
  have hpos : 0 < before.length := by
    rw [List.length_pos_iff]
    rintro rfl
    obtain ⟨c, g, rfl⟩ := List.exists_cons_of_ne_nil hg.2
    have hblank : isBlank c = true := hg.1 c List.mem_cons_self
    rw [r.description_cell.trimmed.1 c (by rw [hsplit]; rfl)] at hblank
    cases hblank
  have hdrop : g ++ q <+: r.ending.drop before.length := by
    rw [ending, hsplit, List.append_assoc, List.drop_left, List.append_assoc, List.append_assoc,
      ← List.append_assoc]
    exact List.prefix_append _ _
  obtain ⟨count, hcount, _, hfirst⟩ := exists_firstPrice hpos hg hq hdrop
  obtain ⟨b, hb, rfl⟩ := hfirst.isPrice
  rw [readRecord_text hart htotal hb hfirst] at h
  have hmovement := Option.some.inj (Except.ok.inj (Prod.mk.inj h).2)
  have hsubject : Text.strip (r.ending.take count) = r.description :=
    Option.some.inj (congrArg Movement.subject hmovement)
  -- the text in front of the price is shorter than the description
  have hshort := Text.length_strip_le (r.ending.take count)
  have hlength := congrArg List.length hsplit
  rw [hsubject, List.length_take] at hshort
  rw [List.length_append, List.length_append] at hlength
  omega

/-- Only a regular row is read as what it says. -/
theorem isRegular_of_readRecord {today : Date} {withAdditional : Bool} {header : Header}
    (h : Bundled.barclaysGeneralTable.readRecord Bundled.barclaysOverview today withAdditional
      r.text header = (header, .ok (some (r.movement today)))) : r.IsRegular := by
  cases hsearch : general.search? r.text with
  | none =>
      rw [readRecord_of_not_found hsearch] at h
      cases h
  | some found =>
      obtain ⟨p, hp, rfl⟩ := exists_divides hsearch
      obtain ⟨_, _, _, _, _, _, _, -, -, -, hday, -, -, -, hdescription, -, ⟨b, -, hb⟩, -⟩ := id hp
      have hread := h
      rw [readRecord_of_found hsearch (List.ne_nil_of_length_pos (by rw [hday.length]; decide))
        hdescription hb.symm] at hread
      cases hdate : Bundled.barclaysOverview.readDate MovementVariable.bookingDate.label
          (some p.day) with
      | error fault =>
          rw [hdate] at hread
          cases hread
      | ok d =>
          rw [hdate] at hread
          have hmovement := Option.some.inj (Except.ok.inj (Prod.mk.inj hread).2)
          have hsubject : Text.strip p.description = r.description :=
            Option.some.inj (congrArg Movement.subject hmovement)
          have hcounterparty : (if p.name = [] then none else some (Text.strip p.name))
              = some r.name := congrArg Movement.counterparty hmovement
          have hname : Text.strip p.name = r.name := by
            split at hcounterparty
            · cases hcounterparty
            · exact Option.some.inj hcounterparty
          obtain ⟨hart, htotal, hamount⟩ := isShort_of_divides hp hname hsubject
          exact ⟨hart, htotal, hamount, description_of_readRecord hart htotal h⟩

/-- A row is read as what it says exactly when it is regular. A row with a longer total or amount,
or with a price in its description, is skipped or read with other numbers. -/
theorem readRecord_iff_regular (r : FeeRow) (today : Date) (withAdditional : Bool)
    (header : Header) :
    Bundled.barclaysGeneralTable.readRecord Bundled.barclaysOverview today withAdditional r.text
        header = (header, .ok (some (r.movement today)))
      ↔ r.IsRegular :=
  ⟨isRegular_of_readRecord, fun h => readRecord_of_regular h today withAdditional header⟩

def yearlyFee (a : GermanAmount) : FeeRow where
  art := some "Lastschrift".toList
  name := "Jahresgebühr".toList
  date := ⟨2024, 4, 2, by decide⟩
  total := a
  description := "Kartenpreis".toList
  amount := a
  art_title := by
    rintro _ ⟨⟩
    exact ⟨⟨by decide, by decide, by decide⟩, by decide, fun _ hday => hday.not_isInfix (by decide)⟩
  name_title :=
    ⟨⟨by decide, by decide, by decide⟩, by decide, fun _ hday => hday.not_isInfix (by decide)⟩
  date_short := ⟨by decide, by decide⟩
  description_cell := ⟨by decide, by decide, by decide⟩

theorem isRegular_yearlyFee_iff (a : GermanAmount) : (yearlyFee a).IsRegular ↔ IsShort a := by
  refine ⟨fun h => h.amount, fun h => ⟨?_, h, h, fun before g p after hg _ hsplit => ?_⟩⟩
  · rintro _ ⟨⟩
    exact forall_mem_of_all (by decide)
  · obtain ⟨c, g, rfl⟩ := List.exists_cons_of_ne_nil hg.2
    have hmem : c ∈ (yearlyFee a).description := by
      rw [hsplit]
      exact List.mem_append_right before List.mem_cons_self
    have hblank : isBlank c = true := hg.1 c List.mem_cons_self
    have hword : ∀ c ∈ "Kartenpreis".toList, isBlank c = false := forall_mem_of_all (by decide)
    rw [hword c hmem] at hblank
    cases hblank

/-- A fee of 29 euros is read. -/
theorem readRecord_iff_regular_yearlyFee : ∃ r : FeeRow,
    r.text = "Lastschrift: Jahresgebühr 02.04.24 29,00- Kartenpreis 29,00".toList
      ∧ Bundled.barclaysGeneralTable.readRecord Bundled.barclaysOverview ⟨2024, 12, 31, by decide⟩
          false r.text {}
        = ({}, .ok (some (r.movement ⟨2024, 12, 31, by decide⟩))) := by
  refine ⟨yearlyFee (.ungrouped .none "29".toList "00".toList (by decide) (by decide) (by decide)
    rfl), by decide, ?_⟩
  exact (readRecord_iff_regular _ _ _ _).mpr ((isRegular_yearlyFee_iff _).mpr (by decide))

/-- A fee of 1.234,56 euros is not. -/
theorem not_readRecord_of_feeRow : ¬ ∀ (r : FeeRow) (today : Date) (withAdditional : Bool)
    (header : Header), Bundled.barclaysGeneralTable.readRecord Bundled.barclaysOverview today
      withAdditional r.text header = (header, .ok (some (r.movement today))) := by
  intro hall
  have hread := hall (yearlyFee ⟨.none, "1".toList, ["234".toList], "56".toList, by decide,
    by decide, by decide, by decide, rfl⟩) ⟨2024, 12, 31, by decide⟩ false {}
  have hshort := (isRegular_yearlyFee_iff _).mp (isRegular_of_readRecord hread)
  revert hshort
  decide

end FeeRow

end BankStatement.BarclaysOverview
