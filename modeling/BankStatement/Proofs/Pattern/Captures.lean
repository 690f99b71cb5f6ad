import BankStatement.Proofs.Pattern.Words
import Mathlib.Data.List.TakeWhile

/-!
# What groups take

A node with groups reads words and remembers parts of them: from a spot it reaches the ends of the
words ahead, with marks for the groups that have closed on the way (`Captures`). Like the languages
of `Reads`, these relations are put together like the nodes. They tell which groups a match can
have, whatever was preferred.

Where the preference matters, the match is followed choice by choice: what is tried first decides if
it leads to a match (`run_greedy`, `run_lazy`, `run_optional`).

Whatever a search finds has groups that the node can leave (`Captures.of_search?`). The search for a
run of characters finds the first one (`search?_run`).

The two halves serve the two directions of a statement about a pattern. From a match to what was
matched, `Captures` is enough, and it is cheap: each node has one lemma, and the whole pattern is
put together from them without a look at any run. From a text to the match that is found in it,
every choice of the pattern has to be shown to be the first that works, which takes a lemma for each
place at which there is a choice. Where only one word stands ahead there is none, and the first half
serves for both (`Captures.run_of_only`).

Marks are kept with the latest first, as the spots of a match keep them. A group that is closed
twice has two marks, of which the later one counts.
-/

namespace BankStatement.Pattern

/-! ## Marks -/

namespace Spot

/-- The spot with some more groups closed. -/
def mark (marks : List (Nat × Text)) (s : Spot) : Spot := { s with groups := marks ++ s.groups }

@[simp] theorem ahead_mark (marks : List (Nat × Text)) (s : Spot) :
    (s.mark marks).ahead = s.ahead := rfl

theorem mark_mark (marks more : List (Nat × Text)) (s : Spot) :
    (s.mark marks).mark more = s.mark (more ++ marks) := by
  simp only [mark, List.append_assoc]

theorem skip_mark (n : Nat) (marks : List (Nat × Text)) (s : Spot) :
    (s.mark marks).skip n = (s.skip n).mark marks := by
  induction n generalizing s with
  | zero => rfl
  | succ n ih =>
      cases h : s.ahead with
      | nil =>
          have hmark : (s.mark marks).ahead = [] := h
          rw [skip_of_nil h, skip_of_nil hmark]
      | cons c rest =>
          have hmark : (s.mark marks).ahead = c :: rest := h
          rw [skip_succ h, skip_succ hmark]
          exact ih (s.advance c rest)

theorem close_take (index : Nat) {n : Nat} {s : Spot} (h : n ≤ s.ahead.length) :
    close index s (s.skip n) = (s.skip n).mark [(index, s.ahead.take n)] := by
  rw [close_skip index h]
  simp only [mark, groups_skip, List.singleton_append]

theorem close_prefix (index : Nat) {w : Text} {s : Spot} (h : w <+: s.ahead) :
    close index s (s.skip w.length) = (s.skip w.length).mark [(index, w)] := by
  have htake : s.ahead.take w.length = w := (List.prefix_iff_eq_take.mp h).symm
  rw [close_take index h.length_le, htake]

end Spot

namespace Node

variable {ignoreCase : Bool} {a b : Node} {A : Text → Prop} {R S : Text → List (Nat × Text) → Prop}

/-! ## Words with marks -/

/-- From every spot the node reaches the ends of the words ahead that a relation relates to some
marks, with these marks. -/
def Captures (ignoreCase : Bool) (n : Node) (R : Text → List (Nat × Text) → Prop) : Prop :=
  ∀ s t, t ∈ n.ways ignoreCase s
    ↔ ∃ w marks, R w marks ∧ w <+: s.ahead ∧ t = (s.skip w.length).mark marks

theorem Captures.congr (h : a.Captures ignoreCase R) (hsame : ∀ w marks, R w marks ↔ S w marks) :
    a.Captures ignoreCase S := by
  intro s t
  simp only [h s t, hsame]

theorem Reads.captures (h : a.Reads ignoreCase A) :
    a.Captures ignoreCase fun w marks => A w ∧ marks = [] := by
  intro s t
  rw [h]
  constructor
  · rintro ⟨w, hw, hahead, rfl⟩
    exact ⟨w, [], ⟨hw, rfl⟩, hahead, rfl⟩
  · rintro ⟨w, _, ⟨hw, rfl⟩, hahead, rfl⟩
    exact ⟨w, hw, hahead, rfl⟩

theorem Reads.group (h : a.Reads ignoreCase A) (index : Nat) :
    (group index a).Captures ignoreCase fun w marks => A w ∧ marks = [(index, w)] := by
  intro s t
  rw [ways, List.mem_map]
  constructor
  · rintro ⟨r, hr, rfl⟩
    obtain ⟨w, hw, hahead, rfl⟩ := (h s r).mp hr
    exact ⟨w, _, ⟨hw, rfl⟩, hahead, Spot.close_prefix index hahead⟩
  · rintro ⟨w, _, ⟨hw, rfl⟩, hahead, rfl⟩
    exact ⟨_, (h s _).mpr ⟨w, hw, hahead, rfl⟩, Spot.close_prefix index hahead⟩

theorem Captures.seq (ha : a.Captures ignoreCase R) (hb : b.Captures ignoreCase S) :
    (seq a b).Captures ignoreCase fun w marks => ∃ u v first second, R u first ∧ S v second
      ∧ w = u ++ v ∧ marks = second ++ first := by
  intro s t
  simp only [ways, List.mem_flatMap]
  constructor
  · rintro ⟨r, hr, ht⟩
    obtain ⟨u, first, hu, ⟨rest, hrest⟩, rfl⟩ := (ha s r).mp hr
    obtain ⟨v, second, hv, hahead, rfl⟩ := (hb _ t).mp ht
    rw [Spot.ahead_mark, Spot.ahead_skip, ← hrest, List.drop_left] at hahead
    refine ⟨u ++ v, second ++ first, ⟨u, v, first, second, hu, hv, rfl, rfl⟩, ?_, ?_⟩
    · rw [← hrest]
      exact (List.prefix_append_right_inj u).mpr hahead
    · rw [Spot.skip_mark, Spot.mark_mark, Spot.skip_skip, List.length_append]
  · rintro ⟨_, _, ⟨u, v, first, second, hu, hv, rfl, rfl⟩, ⟨rest, hrest⟩, rfl⟩
    have hahead : s.ahead = u ++ (v ++ rest) := by rw [← hrest, List.append_assoc]
    refine ⟨(s.skip u.length).mark first, (ha s _).mpr ⟨u, first, hu, ⟨_, hahead.symm⟩, rfl⟩,
      (hb _ _).mpr ⟨v, second, hv, ?_, ?_⟩⟩
    · rw [Spot.ahead_mark, Spot.ahead_skip, hahead, List.drop_left]
      exact List.prefix_append v rest
    · rw [Spot.skip_mark, Spot.mark_mark, Spot.skip_skip, List.length_append]

/-- The ways of a node that may be left out. -/
theorem ways_optional (n : Node) (s : Spot) :
    (times n 0 (some 1) true).ways ignoreCase s = n.ways ignoreCase s ++ [s] := by
  simp [ways, roundWays]

theorem Captures.optional (h : a.Captures ignoreCase R) :
    (times a 0 (some 1) true).Captures ignoreCase
      fun w marks => R w marks ∨ w = [] ∧ marks = [] := by
  intro s t
  rw [ways_optional, List.mem_append, List.mem_singleton, h]
  constructor
  · rintro (⟨w, marks, hw, hahead, rfl⟩ | rfl)
    · exact ⟨w, marks, .inl hw, hahead, rfl⟩
    · exact ⟨[], [], .inr ⟨rfl, rfl⟩, List.nil_prefix, rfl⟩
  · rintro ⟨w, marks, hw | ⟨rfl, rfl⟩, hahead, rfl⟩
    · exact .inl ⟨w, marks, hw, hahead, rfl⟩
    · exact .inr rfl

/-! ## What is tried first -/

variable {s : Spot} {k : Continuation} {found : Spot}

theorem Captures.exists_of_run (h : a.Captures ignoreCase R)
    (hrun : a.run ignoreCase s some = some found) :
    ∃ w marks, R w marks ∧ w <+: s.ahead ∧ found = (s.skip w.length).mark marks := by
  rw [run_eq_findSome?] at hrun
  obtain ⟨r, hr, hrs⟩ := List.exists_of_findSome?_eq_some hrun
  obtain rfl : r = found := Option.some.inj hrs
  exact (h s r).mp hr

theorem Captures.run_eq_none (h : a.Captures ignoreCase R)
    (hno : ∀ w marks, R w marks → ¬ w <+: s.ahead) : a.run ignoreCase s k = none := by
  rw [run_eq_findSome?, List.findSome?_eq_none_iff]
  intro t ht
  obtain ⟨w, marks, hw, hahead, -⟩ := (h s t).mp ht
  exact absurd hahead (hno w marks hw)

/-- A node with one word ahead goes on behind it, whatever the continuation is. The order of its
alternatives does not matter, as all but one fail. -/
theorem Captures.run_of_only (h : a.Captures ignoreCase R) {w : Text} {marks : List (Nat × Text)}
    (hw : R w marks) (hahead : w <+: s.ahead)
    (honly : ∀ v more, R v more → v <+: s.ahead → v = w ∧ more = marks) :
    a.run ignoreCase s k = k ((s.skip w.length).mark marks) := by
  have hall : ∀ t ∈ a.ways ignoreCase s, t = (s.skip w.length).mark marks := by
    intro t ht
    obtain ⟨v, more, hv, hva, rfl⟩ := (h s t).mp ht
    obtain ⟨rfl, rfl⟩ := honly v more hv hva
    rfl
  have hmem : (s.skip w.length).mark marks ∈ a.ways ignoreCase s :=
    (h s _).mpr ⟨w, marks, hw, hahead, rfl⟩
  rw [run_eq_findSome?]
  generalize a.ways ignoreCase s = ts at hall hmem
  induction ts with
  | nil => cases hmem
  | cons t ts ih =>
      obtain ⟨rfl, hts⟩ := List.forall_mem_cons.mp hall
      rw [List.findSome?_cons]
      cases hk : k ((s.skip w.length).mark marks) with
      | some found => rfl
      | none =>
          rw [List.findSome?_eq_none_iff]
          exact fun t ht => hts t ht ▸ hk

theorem run_of_only (h : a.Reads ignoreCase A) {w : Text} (hw : A w) (hahead : w <+: s.ahead)
    (honly : ∀ v, A v → v <+: s.ahead → v = w) :
    a.run ignoreCase s k = k (s.skip w.length) :=
  h.captures.run_of_only ⟨hw, rfl⟩ hahead fun v _ hv hva => ⟨honly v hv.1 hva, hv.2⟩

theorem run_optional (n : Node) :
    (times n 0 (some 1) true).run ignoreCase s k = (n.run ignoreCase s k).or (k s) := by
  rw [run_eq_findSome?, ways_optional, List.findSome?_append, run_eq_findSome?]
  simp

end Node

theorem roundCounts_greedy {least upTo : Nat} (h : least ≤ upTo) :
    ∃ more, roundCounts true least upTo = upTo :: more := by
  obtain ⟨n, rfl⟩ := Nat.exists_eq_add_of_le h
  have hcount : least + n + 1 - least = n + 1 := by omega
  refine ⟨(List.range' least n).reverse, ?_⟩
  rw [roundCounts, if_pos rfl, hcount, List.range'_1_concat, List.reverse_append]
  rfl

theorem roundCounts_lazy {least count upTo : Nat} (hleast : least ≤ count) (h : count ≤ upTo) :
    ∃ more, roundCounts false least upTo
      = List.range' least (count - least) ++ count :: more := by
  obtain ⟨n, rfl⟩ := Nat.exists_eq_add_of_le h
  obtain ⟨i, rfl⟩ := Nat.exists_eq_add_of_le hleast
  have hsplit : least + i + n + 1 - least = i + (n + 1) := by omega
  refine ⟨List.range' (least + i + 1) n, ?_⟩
  rw [roundCounts, if_neg Bool.false_ne_true, hsplit, Nat.add_sub_cancel_left,
    ← List.range'_append_1, List.range'_succ]

namespace Node

variable {ignoreCase : Bool} {n : Node} {accepts : Char → Bool} {s : Spot} {k : Continuation}
  {found : Spot}

/-- A greedy repetition takes the whole run of characters if that leads to a match. If it does not,
fewer are tried, and this lemma says nothing. -/
theorem run_greedy (h : n.OneChar ignoreCase accepts) {least : Nat}
    (hleast : least ≤ (s.ahead.takeWhile accepts).length)
    (hk : k (s.skip (s.ahead.takeWhile accepts).length) = some found) :
    (times n least none true).run ignoreCase s k = some found := by
  obtain ⟨more, hmore⟩ := roundCounts_greedy hleast
  rw [run_eq_findSome?, ways_times_none h, hmore, List.map_cons, List.findSome?_cons, hk]

/-- A lazy repetition takes the fewest characters that lead to a match, where no smaller number
does. With the continuation of the rest of a pattern this is how the length of a name or description
is found. -/
theorem run_lazy (h : n.OneChar ignoreCase accepts) {least count : Nat} (hleast : least ≤ count)
    (hcount : count ≤ (s.ahead.takeWhile accepts).length)
    (hk : k (s.skip count) = some found)
    (hbefore : ∀ i, least ≤ i → i < count → k (s.skip i) = none) :
    (times n least none false).run ignoreCase s k = some found := by
  obtain ⟨more, hmore⟩ := roundCounts_lazy hleast hcount
  have hnone : ((List.range' least (count - least)).map (s.skip ·)).findSome? k = none := by
    rw [List.findSome?_map, List.findSome?_eq_none_iff]
    intro i hi
    have hrange := List.mem_range'_1.mp hi
    exact hbefore i hrange.1 (by omega)
  rw [run_eq_findSome?, ways_times_none h, hmore, List.map_append, List.findSome?_append, hnone,
    List.map_cons, List.findSome?_cons, hk, Option.none_or]

end Node

/-! ## Searching -/

theorem matchAt_of_run {p : Pattern} {line : Text} {found : Spot} (hcase : p.ignoreCase = false)
    (h : p.node.run false ⟨0, none, line, []⟩ some = some found) :
    p.matchAt 0 none line = some ⟨found.groups⟩ := by
  rw [matchAt, hcase, h, Option.map_some]

/-- A match at the start of a text is the leftmost one. -/
theorem search?_of_matchAt {p : Pattern} {t : Text} {found : Match}
    (h : p.matchAt 0 none t = some found) : p.search? t = some found := by
  cases t with
  | nil => exact h
  | cons c rest => rw [search?, searchFrom, h]

/-- A pattern for the start of a text is not found further on. -/
theorem search?_of_start {p : Pattern} {n : Node} (hnode : p.node = .seq (.place .start) n)
    (hcase : p.ignoreCase = false) (t : Text) :
    p.search? t = (n.run false ⟨0, none, t, []⟩ some).map fun s => ⟨s.groups⟩ := by
  have hat (position : Nat) (before : Option Char) (ahead : Text) :
      p.matchAt position before ahead = if position == 0 then
        (n.run false ⟨position, before, ahead, []⟩ some).map fun s => ⟨s.groups⟩ else none := by
    rw [matchAt, hnode, hcase]
    show (if position == 0 then n.run false _ some else none).map _ = _
    split <;> rfl
  have hlater (position : Nat) (before : Option Char) (rest : Text) :
      p.searchFrom (position + 1) before rest = none := by
    induction rest generalizing position before with
    | nil => exact hat (position + 1) before []
    | cons c rest ih =>
        rw [searchFrom, hat, if_neg (by simp)]
        exact ih (position + 1) (some c)
  cases t with
  | nil => exact hat 0 none []
  | cons c rest =>
      have hhere := hat 0 none (c :: rest)
      rw [if_pos (by rfl)] at hhere
      rw [search?, searchFrom, hhere]
      cases n.run false ⟨0, none, c :: rest, []⟩ some with
      | some found => rfl
      | none => exact hlater 0 (some c) rest

theorem exists_matchAt_of_searchFrom {p : Pattern} {position : Nat} {before : Option Char}
    {t : Text} {found : Match} (h : p.searchFrom position before t = some found) :
    ∃ position before ahead, p.matchAt position before ahead = some found := by
  induction t generalizing position before with
  | nil => exact ⟨_, _, _, h⟩
  | cons c rest ih =>
      unfold searchFrom at h
      split at h
      next hhere => cases h; exact ⟨_, _, _, hhere⟩
      next => exact ih h

/-- The groups of a match are marks that the node can leave behind a word. Where in the text the
word stands is left open. -/
theorem Node.Captures.of_search? {p : Pattern} {n : Node} {ignoreCase : Bool}
    {R : Text → List (Nat × Text) → Prop} {t : Text} {found : Match} (h : n.Captures ignoreCase R)
    (hnode : p.node = n) (hcase : p.ignoreCase = ignoreCase) (hfound : p.search? t = some found) :
    ∃ w, R w found.groups := by
  subst hnode hcase
  obtain ⟨position, before, ahead, hat⟩ := exists_matchAt_of_searchFrom hfound
  rw [matchAt, Option.map_eq_some_iff] at hat
  obtain ⟨s, hs, rfl⟩ := hat
  obtain ⟨w, marks, hw, -, rfl⟩ := h.exists_of_run hs
  refine ⟨w, ?_⟩
  simpa [Spot.mark] using hw

/-! ## Searching for runs of characters -/

def firstRun? (accepts : Char → Bool) (t : Text) : Option Text :=
  match (t.dropWhile (!accepts ·)).takeWhile accepts with
  | [] => none
  | c :: run => some (c :: run)

theorem firstRun?_of_pos {accepts : Char → Bool} {c : Char} (h : accepts c = true) (rest : Text) :
    firstRun? accepts (c :: rest) = some (c :: rest.takeWhile accepts) := by
  rw [firstRun?, List.dropWhile_cons_of_neg (by simp [h]), List.takeWhile_cons_of_pos h]

theorem firstRun?_of_neg {accepts : Char → Bool} {c : Char} (h : accepts c = false) (rest : Text) :
    firstRun? accepts (c :: rest) = firstRun? accepts rest := by
  rw [firstRun?, List.dropWhile_cons_of_pos (by simp [h]), firstRun?]

/-- A text of one class is its first run. -/
theorem firstRun?_of_all {accepts : Char → Bool} {t : Text} (h : ∀ c ∈ t, accepts c = true)
    (hne : t ≠ []) : firstRun? accepts t = some t := by
  obtain ⟨c, rest, rfl⟩ := List.exists_cons_of_ne_nil hne
  obtain ⟨hc, hrest⟩ := List.forall_mem_cons.mp h
  rw [firstRun?_of_pos hc, List.takeWhile_eq_self_iff.mpr hrest]

theorem ne_nil_of_firstRun? {accepts : Char → Bool} {t run : Text}
    (h : firstRun? accepts t = some run) : run ≠ [] := by
  unfold firstRun? at h
  split at h
  · cases h
  · cases h; exact List.cons_ne_nil _ _

/-- A repeated class of characters in a group is found at the first run. -/
theorem search?_run {p : Pattern} {index : Nat} {n : Node} {accepts : Char → Bool}
    (hnode : p.node = .group index (.times n 1 none true)) (hcase : p.ignoreCase = false)
    (h : n.OneChar false accepts) (t : Text) :
    p.search? t = (firstRun? accepts t).map fun run => ⟨[(index, run)]⟩ := by
  have hmatch {s : Spot} {run : Text} (hrun : s.ahead.takeWhile accepts = run) :
      p.node.run false s some
        = if run = [] then none else some ((s.skip run.length).mark [(index, run)]) := by
    rw [hnode]
    show (Node.times n 1 none true).run false s (fun u => some (Spot.close index s u)) = _
    split
    next hnil =>
      rw [Node.run_eq_findSome?, Node.ways_times_none h, hrun, hnil,
        roundCounts_of_lt true (by decide), List.map_nil, List.findSome?_nil]
    next hne =>
      refine Node.run_greedy h ?_ ?_
      · rw [hrun]
        exact List.length_pos_iff.mpr hne
      · rw [hrun, Spot.close_prefix index (hrun ▸ List.takeWhile_prefix accepts)]
  have hfrom (position : Nat) (before : Option Char) :
      p.searchFrom position before t = (firstRun? accepts t).map fun run => ⟨[(index, run)]⟩ := by
    induction t generalizing position before with
    | nil =>
        rw [searchFrom, matchAt, hcase, hmatch rfl]
        rfl
    | cons c rest ih =>
        rw [searchFrom, matchAt, hcase, hmatch rfl]
        cases hc : accepts c with
        | true =>
            simp [firstRun?_of_pos hc, List.takeWhile_cons_of_pos hc, Spot.mark]
        | false =>
            simp [firstRun?_of_neg hc, hc, ih]
  exact hfrom 0 none

end BankStatement.Pattern
