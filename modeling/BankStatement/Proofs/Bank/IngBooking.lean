import BankStatement.Proofs.Reading.GermanPatterns
import BankStatement.Proofs.Text.Trimming
import BankStatement.Template.Bundled.Ing

/-!
# Booking lines of ING statements

The rule for booking lines takes a token, a name that may be missing and an amount that may be
missing from the text behind the date. Which text goes where depends on what the rule tries first:
the name is looked for before the amount, and takes as little as leads to a match. So the text
behind the date is split in one of three ways (`Split`), every text in one of them (`exists_split`),
and the groups of the match are those of the split (`search_of_split`).

An amount that stands alone behind the token is the name, since the rule would rather leave out the
amount than the name.

The search is followed from the end of the line to its beginning. What may stand at the end is
nothing or an amount behind a gap, and a text is one of these in at most one way
(`PriceMarks.unique`), so the end of the line has a single run or none (`lineTail_run`). In front of
it a lazy repetition takes the shortest name behind which the line may end (`nameAndTail_run`), and
in front of that the date and the token have no choice (`booking_run`). The alternatives of a
pattern multiply when they are listed together; taken from the end, each part is met with what
follows it already settled.
-/

namespace BankStatement.IngStatement

open Pattern Pattern.Node Pattern.German
open Text (Blanks Trimmed)

/-! ## The pattern -/

def token : Node := .times (.oneOf false [.named .blank true]) 1 none true

def nameAfterGap : Node := .seq .empty (.seq gap (.group 3 (.times .anyChar 0 none false)))

def priceAfterGap : Node := .seq .empty (.seq gap (.group 4 amount))

def lineTail : Node := .seq (.times priceAfterGap 0 (some 1) true) (.place .lineEnd)

def nameAndTail : Node := .seq (.times nameAfterGap 0 (some 1) true) lineTail

def booking : Pattern := Pattern.ofLiteral Bundled.ingPdfBooking

theorem booking_eq : booking = {
    source := Bundled.ingPdfBooking.toList
    node := dated (.seq (.group 2 token) nameAndTail)
    names := [("PostingDate".toList, 1), ("PostingDescription".toList, 2),
      ("SourceName".toList, 3), ("Amount".toList, 4)] } := by
  decide +kernel

theorem booking_node : booking.node = dated (.seq (.group 2 token) nameAndTail) := by
  rw [booking_eq]

/-! ## Blanks and the text behind them -/

/-- A text without white space. -/
def IsToken (t : Text) : Prop := t ≠ [] ∧ ∀ c ∈ t, isBlank c = false

instance (t : Text) : Decidable (IsToken t) :=
  decidable_of_iff (t ≠ [] ∧ t.all (!isBlank ·) = true) (by simp [IsToken])

theorem IsToken.head {t : Text} (h : IsToken t) (rest : Text) :
    ∀ c ∈ (t ++ rest).head?, isBlank c = false := by
  obtain ⟨c, t, rfl⟩ := List.exists_cons_of_ne_nil h.1
  rintro _ ⟨⟩
  exact h.2 c List.mem_cons_self

/-- A text without white space behind a gap is what follows the last blank, so a text ends in one
amount at most. -/
theorem eq_of_gap_append {u v g g' a b : Text} (hg : IsGap g) (hg' : IsGap g')
    (ha : ∀ c ∈ a, isBlank c = false) (hb : ∀ c ∈ b, isBlank c = false)
    (h : u ++ g ++ a = v ++ g' ++ b) : u ++ g = v ++ g' ∧ a = b := by
  have htail {u g a : Text} (hg : IsGap g) (ha : ∀ c ∈ a, isBlank c = false) :
      (u ++ g ++ a).reverse.takeWhile (!isBlank ·) = a.reverse := by
    have hlast : (u ++ g).reverse.takeWhile (!isBlank ·) = [] := by
      obtain ⟨c, rest, hc⟩ := List.exists_cons_of_ne_nil (List.reverse_ne_nil_iff.mpr hg.2)
      have hblank : isBlank c = true := hg.1 c (List.mem_reverse.mp (hc ▸ List.mem_cons_self))
      rw [List.reverse_append, hc, List.cons_append, List.takeWhile_cons_of_neg (by simp [hblank])]
    rw [List.reverse_append, List.takeWhile_append_of_pos, hlast, List.append_nil]
    exact fun c hc => by simp [ha c (List.mem_reverse.mp hc)]
  have hab : a = b := by rw [← List.reverse_inj, ← htail hg ha, h, htail hg' hb]
  exact ⟨List.append_cancel_right (hab ▸ h), hab⟩

theorem notBlank_of_isAmount {w : Text} (h : IsAmount w) : ∀ c ∈ w, isBlank c = false := by
  obtain ⟨a, -, rfl⟩ := h
  exact fun c hc => GermanAmount.notBlank_of_mem_text hc

/-! ## The end of a line -/

/-- What may stand at the end of a line, and the group that takes it: nothing, or an amount behind a
gap. -/
def PriceMarks (w : Text) (marks : List (Nat × Text)) : Prop :=
  (∃ g a, IsGap g ∧ IsAmount a ∧ w = g ++ a ∧ marks = [(4, a)]) ∨ w = [] ∧ marks = []

theorem PriceMarks.unique {w : Text} {m n : List (Nat × Text)} (hm : PriceMarks w m)
    (hn : PriceMarks w n) : m = n := by
  rcases hm with ⟨g, a, hg, ha, rfl, rfl⟩ | ⟨rfl, rfl⟩
  · rcases hn with ⟨g', b, hg', hb, h, rfl⟩ | ⟨h, -⟩
    · obtain ⟨-, rfl⟩ := eq_of_gap_append (u := []) (v := []) hg hg' (notBlank_of_isAmount ha)
        (notBlank_of_isAmount hb) h
      rfl
    · exact absurd (List.append_eq_nil_iff.mp h).1 hg.2
  · rcases hn with ⟨g, a, hg, -, h, -⟩ | ⟨-, rfl⟩
    · exact absurd (List.append_eq_nil_iff.mp h.symm).1 hg.2
    · rfl

theorem price_captures : (Node.times priceAfterGap 0 (some 1) true).Captures false PriceMarks := by
  have hbody := (reads_empty false).captures.seq (gap_reads.captures.seq (amount_reads.group 4))
  refine (hbody.congr fun w marks => ?_).optional
  constructor
  · rintro ⟨_, _, _, _, ⟨rfl, rfl⟩, ⟨g, a, _, _, ⟨hg, rfl⟩, ⟨ha, rfl⟩, rfl, rfl⟩, rfl, rfl⟩
    exact ⟨g, a, hg, ha, rfl, rfl⟩
  · rintro ⟨g, a, hg, ha, rfl, rfl⟩
    exact ⟨[], _, [], _, ⟨rfl, rfl⟩, ⟨g, a, [], _, ⟨hg, rfl⟩, ⟨ha, rfl⟩, rfl, rfl⟩, rfl, rfl⟩

theorem findSome?_of_unique {α β : Type} {l : List α} {k : α → Option β} {a : α} {b : β}
    (ha : a ∈ l) (hb : k a = some b) (honly : ∀ a' ∈ l, ∀ b', k a' = some b' → b' = b) :
    l.findSome? k = some b := by
  cases h : l.findSome? k with
  | none => rw [List.findSome?_eq_none_iff.mp h a ha] at hb; cases hb
  | some b' =>
      obtain ⟨a', ha', hb'⟩ := List.exists_of_findSome?_eq_some h
      rw [honly a' ha' b' hb']

/-- The end of a line is reached exactly when nothing or an amount behind a gap is left, and then in
one way. The name in front of it is thus ruled by what it leaves over and by nothing else. -/
theorem lineTail_run {s found : Spot} (hline : '\n' ∉ s.ahead) :
    lineTail.run false s some = some found
      ↔ ∃ marks, PriceMarks s.ahead marks ∧ found = (s.skip s.ahead.length).mark marks := by
  have hstep : lineTail.run false s some
      = ((Node.times priceAfterGap 0 (some 1) true).ways false s).findSome?
        fun t => if t.isAt .lineEnd then some t else none := by
    rw [← run_eq_findSome?]
    rfl
  -- where the end is reached, everything ahead has been read
  have hall {t b : Spot} (ht : t ∈ (Node.times priceAfterGap 0 (some 1) true).ways false s)
      (hb : (if t.isAt .lineEnd then some t else none) = some b) :
      ∃ marks, PriceMarks s.ahead marks ∧ b = (s.skip s.ahead.length).mark marks := by
    split at hb
    next hend =>
      cases hb
      obtain ⟨w, marks, hw, ⟨rest, hrest⟩, rfl⟩ := (price_captures s t).mp ht
      have hnil : rest = [] := by
        simp only [Spot.isAt, Spot.ahead_mark, Spot.ahead_skip, ← hrest, List.drop_left,
          Bool.or_eq_true, List.isEmpty_iff, beq_iff_eq] at hend
        rcases hend with hend | rfl
        · exact hend
        · exact absurd (hrest ▸ List.mem_append_right w List.mem_cons_self) hline
      rw [hnil, List.append_nil] at hrest
      exact ⟨marks, hrest ▸ hw, by rw [hrest]⟩
    next => cases hb
  rw [hstep]
  constructor
  · intro h
    obtain ⟨t, ht, hb⟩ := List.exists_of_findSome?_eq_some h
    exact hall ht hb
  · rintro ⟨marks, hmarks, rfl⟩
    refine findSome?_of_unique
      ((price_captures s _).mpr ⟨s.ahead, marks, hmarks, List.prefix_rfl, rfl⟩) ?_ ?_
    · simp [Spot.isAt]
    · intro t ht b hb
      obtain ⟨marks', hmarks', rfl⟩ := hall ht hb
      rw [hmarks.unique hmarks']

theorem lineTail_run_eq_none {s : Spot} (hline : '\n' ∉ s.ahead)
    (hno : ∀ marks, ¬ PriceMarks s.ahead marks) : lineTail.run false s some = none := by
  rw [Option.eq_none_iff_forall_ne_some]
  intro found h
  obtain ⟨marks, hmarks, -⟩ := (lineTail_run hline).mp h
  exact hno marks hmarks

/-! ## The name -/

theorem nameAndTail_run_nil {s : Spot} (h : s.ahead = []) :
    nameAndTail.run false s some = some s := by
  have hname (k : Pattern.Continuation) : nameAfterGap.run false s k = none := by
    have hgap : gap.ways false s = [] := by
      refine List.eq_nil_iff_forall_not_mem.mpr fun t ht => ?_
      obtain ⟨g, hg, hahead, -⟩ := (gap_reads s t).mp ht
      rw [h, List.prefix_nil] at hahead
      exact hg.2 hahead
    show gap.run false s _ = none
    rw [run_eq_findSome?, hgap, List.findSome?_nil]
  have htail : lineTail.run false s some = some s := by
    refine (lineTail_run (by simp [h])).mpr ⟨[], .inr ⟨h, rfl⟩, ?_⟩
    rw [h]
    rfl
  show (Node.times nameAfterGap 0 (some 1) true).run false s
    (fun t => lineTail.run false t some) = _
  rw [run_optional, hname, htail, Option.none_or]

/-- The name is the shortest beginning of the text behind the gap behind which the line may end:
every shorter one is tried before it and fails, which the last hypothesis says. -/
theorem nameAndTail_run {s : Spot} {g text : Text} {marks : List (Nat × Text)} {count : Nat}
    (hs : s.ahead = g ++ text) (hg : IsGap g) (hhead : ∀ c ∈ text.head?, isBlank c = false)
    (hline : '\n' ∉ text) (hcount : count ≤ text.length)
    (hmarks : PriceMarks (text.drop count) marks)
    (hbefore : ∀ i < count, ∀ m, ¬ PriceMarks (text.drop i) m) :
    nameAndTail.run false s some
      = some ((s.skip s.ahead.length).mark (marks ++ [(3, text.take count)])) := by
  have hgap : s.ahead.takeWhile isBlank = g := by
    rw [hs, Text.takeWhile_of_all hg.1 hhead]
  have hahead : (s.skip g.length).ahead = text := by rw [Spot.ahead_skip, hs, List.drop_left]
  have hrun : (s.skip g.length).ahead.takeWhile (· != '\n') = text := by
    rw [hahead, List.takeWhile_eq_self_iff]
    exact fun c hc => bne_iff_ne.mpr (ne_of_mem_of_not_mem hc hline)
  -- what follows a name of some characters
  have hclose {i : Nat} (hi : i ≤ text.length) :
      Spot.close 3 (s.skip g.length) ((s.skip g.length).skip i)
        = ((s.skip g.length).skip i).mark [(3, text.take i)] := by
    rw [Spot.close_take 3 (hahead ▸ hi), hahead]
  have hrest (i : Nat) :
      (((s.skip g.length).skip i).mark [(3, text.take i)]).ahead = text.drop i := by
    rw [Spot.ahead_mark, Spot.ahead_skip, hahead]
  have hnoLine (i : Nat) : '\n' ∉ text.drop i := fun h => hline (List.mem_of_mem_drop h)
  have hfound : lineTail.run false (((s.skip g.length).skip count).mark [(3, text.take count)]) some
      = some ((s.skip s.ahead.length).mark (marks ++ [(3, text.take count)])) := by
    refine (lineTail_run (by rw [hrest]; exact hnoLine count)).mpr ⟨marks, by rwa [hrest], ?_⟩
    have hlength : g.length + count + (text.drop count).length = s.ahead.length := by
      rw [hs, List.length_append, List.length_drop]
      omega
    rw [hrest, Spot.skip_mark, Spot.mark_mark, Spot.skip_skip, Spot.skip_skip, ← Nat.add_assoc,
      hlength]
  -- the gap is greedy and the name lazy, and behind no shorter name does the line end
  have hname : nameAfterGap.run false s (fun t => lineTail.run false t some)
      = some ((s.skip s.ahead.length).mark (marks ++ [(3, text.take count)])) := by
    show gap.run false s (fun t => (Node.times .anyChar 0 none false).run false t
      (fun u => lineTail.run false (Spot.close 3 t u) some)) = _
    refine run_greedy oneChar_blank ?_ ?_
    · rw [hgap]
      exact List.length_pos_iff.mpr hg.2
    rw [hgap]
    refine run_lazy (oneChar_anyChar false) (Nat.zero_le count) ?_ ?_ ?_
    · rwa [hrun]
    · rw [hclose hcount, hfound]
    · intro i _ hi
      rw [hclose (by omega)]
      exact lineTail_run_eq_none (by rw [hrest]; exact hnoLine i)
        (by rw [hrest]; exact hbefore i hi)
  show (Node.times nameAfterGap 0 (some 1) true).run false s
    (fun t => lineTail.run false t some) = _
  rw [run_optional, hname, Option.some_or]

/-! ## The whole line -/

theorem oneChar_token : (Node.oneOf false [.named .blank true]).OneChar false (!isBlank ·) := by
  refine fun s => (oneChar_named false .blank true s).trans ?_
  simp only [NamedClass.holds, Bool.bne_true]

/-- Behind date, gap and token the match goes on with the name. -/
theorem booking_run {s found : Spot} {day g t rest : Text} (hstart : s.position = 0)
    (hs : s.ahead = day ++ (g ++ (t ++ rest))) (hday : IsDateShape day) (hg : IsGap g)
    (ht : IsToken t) (hrest : ∀ c ∈ rest.head?, isBlank c = true)
    (hfound : nameAndTail.run false
      ((s.skip (day.length + g.length + t.length)).mark [(2, t), (1, day)]) some = some found) :
    booking.node.run false s some = some found := by
  have hahead : ((s.skip (day.length + g.length)).mark [(1, day)]).ahead = t ++ rest := by
    rw [Spot.ahead_mark, Spot.ahead_skip, hs, ← List.append_assoc, ← List.length_append,
      List.drop_left]
  have htoken : ((s.skip (day.length + g.length)).mark [(1, day)]).ahead.takeWhile (!isBlank ·)
      = t := by
    rw [hahead]
    exact Text.takeWhile_of_all (by simpa using ht.2) (by simpa using hrest)
  rw [booking_node]
  refine dated_run hstart hs hday hg (ht.head rest) ?_
  show token.run false _ (fun u => nameAndTail.run false (Spot.close 2 _ u) some) = _
  refine run_greedy oneChar_token ?_ ?_
  · rw [htoken]
    exact List.length_pos_iff.mpr ht.1
  rw [htoken, Spot.close_prefix 2 (hahead ▸ List.prefix_append t rest), ← hfound]
  simp only [Spot.skip_mark, Spot.mark_mark, Spot.skip_skip, List.singleton_append]

/-- How the rule for booking lines splits the text behind date and gap: a token alone, a token and a
name without an amount at the end, or all three. -/
inductive Split : Text → Text → Text → Option GermanAmount → Prop
  | bare {t : Text} (ht : IsToken t) : Split t t [] none
  | named {t g name : Text} (ht : IsToken t) (hg : IsGap g)
      (hhead : ∀ c ∈ name.head?, isBlank c = false)
      (hno : ∀ before g a, IsGap g → IsAmount a → name ≠ before ++ (g ++ a)) :
      Split (t ++ (g ++ name)) t name none
  | priced {t g name g' : Text} {a : GermanAmount} (ht : IsToken t) (hg : IsGap g)
      (hname : Trimmed name) (hne : name ≠ []) (hg' : IsGap g') (ha : a.lead.length ≤ 3) :
      Split (t ++ (g ++ (name ++ (g' ++ a.text)))) t name (some a)

structure Takes (found : Match) (day token name : Text) (price : Option GermanAmount) : Prop where
  date : found.groups.lookup 1 = some day
  token : found.groups.lookup 2 = some token
  name : (found.groups.lookup 3).getD [] = name
  amount : found.groups.lookup 4 = price.map (·.text)

/-- No shorter beginning of a name lets an amount follow. -/
theorem not_priceMarks_of_lt {name g : Text} {a : Text} (hname : Trimmed name) (hg : IsGap g)
    (ha : IsAmount a) {i : Nat} (hi : i < name.length) (marks : List (Nat × Text)) :
    ¬ PriceMarks ((name ++ (g ++ a)).drop i) marks := by
  have hdrop : (name ++ (g ++ a)).drop i = name.drop i ++ (g ++ a) :=
    List.drop_append_of_le_length (Nat.le_of_lt hi)
  obtain ⟨c, hc⟩ : ∃ c, (name.drop i).getLast? = some c :=
    Option.isSome_iff_exists.mp (List.getLast?_isSome.mpr (by simpa using hi))
  -- the last character of the name is no blank, so the gap does not begin inside the name
  have hlast : isBlank c = false := by
    refine hname.2 c ?_
    rw [List.getLast?_drop, if_neg (by omega)] at hc
    exact hc
  rw [hdrop]
  rintro (⟨g', a', hg', ha', h, -⟩ | ⟨h, -⟩)
  · rw [← List.append_assoc] at h
    obtain ⟨hsame, -⟩ := eq_of_gap_append (v := []) hg hg' (notBlank_of_isAmount ha)
      (notBlank_of_isAmount ha') h
    rw [List.nil_append] at hsame
    have hblank := hg'.1 c (hsame ▸ List.mem_append_left g (List.mem_of_getLast? hc))
    rw [hlast] at hblank
    cases hblank
  · exact hg.2 (List.append_eq_nil_iff.mp (List.append_eq_nil_iff.mp h).2).1

/-- A line with a date in front of a text that is split in some way is found with the token, the
name and the amount of that split. As the search is a function, a text has no two splits. -/
theorem search_of_split {day g text token name : Text} {price : Option GermanAmount}
    (hday : IsDateShape day) (hg : IsGap g) (hline : '\n' ∉ text)
    (h : Split text token name price) :
    ∃ found, booking.search? (day ++ (g ++ text)) = some found
      ∧ Takes found day token name price := by
  -- what the front of the pattern leaves to the name and the amount
  have hsearch {t rest : Text} {marks : List (Nat × Text)} (ht : IsToken t)
      (hrest : ∀ c ∈ rest.head?, isBlank c = true)
      (hfound : ∀ s : Spot, s.ahead = rest → ∃ n, nameAndTail.run false s some
        = some ((s.skip n).mark marks)) :
      booking.search? (day ++ (g ++ (t ++ rest))) = some ⟨marks ++ [(2, t), (1, day)]⟩ := by
    have hahead : (day ++ (g ++ (t ++ rest))).drop (day.length + g.length + t.length) = rest := by
      have hlength : day.length + g.length + t.length = (day ++ (g ++ t)).length := by
        rw [List.length_append, List.length_append, Nat.add_assoc]
      have hfront : day ++ (g ++ (t ++ rest)) = (day ++ (g ++ t)) ++ rest := by
        simp only [List.append_assoc]
      rw [hlength, hfront, List.drop_left]
    obtain ⟨n, hn⟩ := hfound
      (((Spot.mk 0 none (day ++ (g ++ (t ++ rest))) []).skip
        (day.length + g.length + t.length)).mark [(2, t), (1, day)])
      (by rw [Spot.ahead_mark, Spot.ahead_skip, hahead])
    have hrun := booking_run rfl rfl hday hg ht hrest hn
    refine search?_of_matchAt ((matchAt_of_run (by rw [booking_eq]) hrun).trans ?_)
    simp [Spot.mark]
  cases h with
  | bare ht =>
      have hfound : booking.search? (day ++ (g ++ (text ++ [])))
          = some ⟨[] ++ [(2, text), (1, day)]⟩ :=
        hsearch ht (by simp) fun s hs => ⟨0, nameAndTail_run_nil hs⟩
      rw [List.append_nil] at hfound
      exact ⟨_, hfound, ⟨rfl, rfl, rfl, rfl⟩⟩
  | @named t g' name ht hg' hhead hno =>
      have hnoLine : '\n' ∉ name := fun hmem => hline (by simp [hmem])
      have hall : ∀ i < name.length, ∀ m, ¬ PriceMarks (name.drop i) m := by
        rintro i hi m (⟨before, a, hb, ha, h, -⟩ | ⟨h, -⟩)
        · exact hno (name.take i) before a hb ha (by rw [← h, List.take_append_drop])
        · exact absurd (List.drop_eq_nil_iff.mp h) (by omega)
      have hfound := hsearch ht (hg'.head _) fun s hs =>
        ⟨_, nameAndTail_run hs hg' hhead hnoLine (Nat.le_refl _) (.inr ⟨by simp, rfl⟩) hall⟩
      refine ⟨_, hfound, ⟨rfl, rfl, ?_, rfl⟩⟩
      simp
  | @priced t g' name g'' a ht hg' hname hne hg'' ha =>
      have hnoLine : '\n' ∉ name ++ (g'' ++ a.text) := fun hmem => hline (by
        rw [List.mem_append, List.mem_append]
        exact .inr (.inr hmem))
      have hhead : ∀ c ∈ (name ++ (g'' ++ a.text)).head?, isBlank c = false := by
        intro c hc
        obtain ⟨d, name, rfl⟩ := List.exists_cons_of_ne_nil hne
        exact hname.1 c hc
      have hfound := hsearch ht (hg'.head _) fun s hs =>
        ⟨_, nameAndTail_run hs hg' hhead hnoLine (List.length_append ▸ Nat.le_add_right _ _)
          (.inl ⟨g'', a.text, hg'', ⟨a, ha, rfl⟩, List.drop_left, rfl⟩)
          fun i hi m => not_priceMarks_of_lt hname hg'' ⟨a, ha, rfl⟩ hi m⟩
      refine ⟨_, hfound, ⟨rfl, rfl, ?_, rfl⟩⟩
      exact List.take_left

/-! ## Every text is split -/

theorem exists_run (p : Char → Bool) (t : Text) :
    ∃ run rest, t = run ++ rest ∧ (∀ c ∈ run, p c = true) ∧ ∀ c ∈ rest.head?, p c = false :=
  ⟨t.takeWhile p, t.dropWhile p, List.takeWhile_append_dropWhile.symm,
    fun _ hc => List.mem_takeWhile_imp hc, Text.head_dropWhile p t⟩

/-- Blanks at the end of a text can be counted to the gap behind it. -/
theorem exists_trimmed {text before g a : Text} (hhead : ∀ c ∈ text.head?, isBlank c = false)
    (hg : IsGap g) (h : text = before ++ (g ++ a)) :
    ∃ name g', text = name ++ (g' ++ a) ∧ Trimmed name ∧ name ≠ [] ∧ IsGap g' := by
  obtain ⟨blanks, hblanks, hbefore, hlast⟩ := Text.exists_stripRight before
  generalize Text.stripRight before = name at hbefore hlast
  subst hbefore
  have hgap : IsGap (blanks ++ g) :=
    ⟨Text.Blanks.append hblanks hg.1, List.append_ne_nil_of_right_ne_nil _ hg.2⟩
  have htext : text = name ++ ((blanks ++ g) ++ a) := by
    rw [h]
    simp only [List.append_assoc]
  have hne : name ≠ [] := by
    rintro rfl
    obtain ⟨c, rest, hc⟩ := List.exists_cons_of_ne_nil hgap.2
    have hblank := hgap.1 c (hc ▸ List.mem_cons_self)
    rw [hhead c (by rw [htext, hc]; rfl)] at hblank
    cases hblank
  refine ⟨name, blanks ++ g, htext, ⟨fun c hc => hhead c ?_, hlast⟩, hne, hgap⟩
  obtain ⟨d, name, rfl⟩ := List.exists_cons_of_ne_nil hne
  rw [htext]
  exact hc

theorem exists_split {text : Text} (hne : text ≠ []) (hhead : ∀ c ∈ text.head?, isBlank c = false) :
    ∃ token name price, Split text token name price := by
  obtain ⟨t, body, rfl, ht, hbody⟩ := exists_run (!isBlank ·) text
  have htoken : IsToken t := by
    refine ⟨?_, fun c hc => by simpa using ht c hc⟩
    rintro rfl
    obtain ⟨c, rest, rfl⟩ := List.exists_cons_of_ne_nil hne
    have hc := hhead c rfl
    have hc' := hbody c rfl
    simp [hc] at hc'
  obtain ⟨g, name, rfl, hg, hname⟩ := exists_run isBlank body
  by_cases hnil : g = []
  · have hname' : name = [] := by
      cases name with
      | nil => rfl
      | cons c name =>
          have hc := hname c rfl
          have hc' := hbody c (by rw [hnil]; rfl)
          simp [hc] at hc'
    subst hnil hname'
    exact ⟨_, _, _, by simpa using Split.bare htoken⟩
  have hgap : IsGap g := ⟨hg, hnil⟩
  -- a name with an amount at its end ends in front of the whole gap between them
  by_cases hprice : ∃ before g' a, IsGap g' ∧ IsAmount a ∧ name = before ++ (g' ++ a)
  · obtain ⟨before, g', _, hg', ⟨a, ha, rfl⟩, hsplit⟩ := hprice
    obtain ⟨name', g'', rfl, htrimmed, hne', hg''⟩ := exists_trimmed hname hg' hsplit
    exact ⟨t, name', some a, .priced htoken hgap htrimmed hne' hg'' ha⟩
  · exact ⟨t, name, none, .named htoken hgap hname fun before g' a hg' ha hsplit =>
      hprice ⟨before, g', a, hg', ha, hsplit⟩⟩

end BankStatement.IngStatement
