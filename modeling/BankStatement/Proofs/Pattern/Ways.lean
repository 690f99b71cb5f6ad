import BankStatement.Pattern.Node
import Mathlib.Data.List.Basic

/-!
# The ways of a pattern through a text

`Node.run` tries the alternatives of a node one after the other and stops at the first with which
the continuation succeeds. `Node.ways` lists the spots that these alternatives reach, in the order
in which they are tried, so that matching is a search through a list: `run_eq_findSome?`. What a
pattern can reach and what it prefers are then questions about a list and its order, with no
continuation in them.

`Spot.skip` passes over characters. A node for a single character reaches at most the next spot
(`OneChar`), and its repetition reaches the spots along the run of characters it accepts, the
nearest or the farthest first (`ways_times_none`).

The matcher is written with continuations because it has to come back: a repetition that has gone
too far is tried again one round shorter when what follows it fails. A direct proof about it would
have to carry a property of all continuations. The list of ways takes the continuation out: it is
applied to each spot of the list, and the first success counts. Nothing is said about how long the
list is. It can grow exponentially with the text, and it is never computed; the program that runs is
the matcher.

Repetitions stop when a round has not moved on, as a round that takes no character could be repeated
for ever. The fuel of the rounds is more than their least number and the characters ahead, so it
does not run out first.
-/

namespace BankStatement.Pattern

/-! ## Passing over characters -/

namespace Spot

/-- The spot some characters further on. -/
def skip : Nat → Spot → Spot
  | 0, s => s
  | n + 1, s =>
    match s.ahead with
    | [] => s
    | c :: rest => (s.advance c rest).skip n

@[simp] theorem skip_zero (s : Spot) : s.skip 0 = s := rfl

theorem skip_succ {s : Spot} {c : Char} {rest : Text} (h : s.ahead = c :: rest) (n : Nat) :
    s.skip (n + 1) = (s.advance c rest).skip n := by
  rw [skip, h]

theorem skip_of_nil {s : Spot} (h : s.ahead = []) (n : Nat) : s.skip n = s := by
  cases n with
  | zero => rfl
  | succ n => rw [skip, h]

@[simp] theorem ahead_skip (n : Nat) (s : Spot) : (s.skip n).ahead = s.ahead.drop n := by
  induction n generalizing s with
  | zero => rfl
  | succ n ih =>
      cases h : s.ahead with
      | nil => rw [skip_of_nil h, h, List.drop_nil]
      | cons c rest => rw [skip_succ h, ih]; rfl

@[simp] theorem groups_skip (n : Nat) (s : Spot) : (s.skip n).groups = s.groups := by
  induction n generalizing s with
  | zero => rfl
  | succ n ih =>
      cases h : s.ahead with
      | nil => rw [skip_of_nil h]
      | cons c rest => rw [skip_succ h, ih]; rfl

theorem position_skip {n : Nat} {s : Spot} (h : n ≤ s.ahead.length) :
    (s.skip n).position = s.position + n := by
  induction n generalizing s with
  | zero => rfl
  | succ n ih =>
      cases hs : s.ahead with
      | nil => rw [hs] at h; cases h
      | cons c rest =>
          rw [hs, List.length_cons] at h
          rw [skip_succ hs, ih (s := s.advance c rest) (by simpa [advance] using h)]
          simp only [advance]
          omega

theorem skip_skip (m n : Nat) (s : Spot) : (s.skip m).skip n = s.skip (m + n) := by
  induction m generalizing s with
  | zero => rw [skip_zero, Nat.zero_add]
  | succ m ih =>
      cases h : s.ahead with
      | nil => rw [skip_of_nil h, skip_of_nil h, skip_of_nil h]
      | cons c rest => rw [Nat.succ_add, skip_succ h, skip_succ h, ih]

/-- Remembers under a number the text passed since a spot. -/
def close (index : Nat) (opened s : Spot) : Spot :=
  { s with groups := (index, opened.ahead.take (s.position - opened.position)) :: s.groups }

theorem close_skip (index : Nat) {n : Nat} {s : Spot} (h : n ≤ s.ahead.length) :
    close index s (s.skip n)
      = { s.skip n with groups := (index, s.ahead.take n) :: s.groups } := by
  simp only [close, position_skip h, Nat.add_sub_cancel_left, groups_skip]

end Spot

/-! ## The ways of a node -/

/-- The spots that the rounds of a repetition reach, in the order of `rounds`. -/
def roundWays (body : Spot → List Spot) (least : Nat) (most : Option Nat) (greedy : Bool) :
    (fuel count : Nat) → (last : Option Nat) → Spot → List Spot
  | 0, _, _, _ => []
  | fuel + 1, count, last, s =>
    if count < least then
      (body s).flatMap (roundWays body least most greedy fuel (count + 1) last)
    else
      let mayGoOn := (most.map fun m => decide (count < m)).getD true && last != some s.position
      let again :=
        (body s).flatMap (roundWays body least most greedy fuel (count + 1) (some s.position))
      if !mayGoOn then [s] else if greedy then again ++ [s] else s :: again

namespace Node

/-- The spots that a node reaches from a spot, in the order in which they are tried. -/
def ways (ignoreCase : Bool) : Node → Spot → List Spot
  | .empty, s => [s]
  | .char c, s =>
    (s.consume fun d => if ignoreCase then Text.sameIgnoringCase c d else c == d).toList
  | .anyChar, s => (s.consume (· != '\n')).toList
  | .oneOf negated items, s =>
    (s.consume fun c => items.any (·.holds ignoreCase c) != negated).toList
  | .place p, s => if s.isAt p then [s] else []
  | .group index body, s => (ways ignoreCase body s).map (Spot.close index s)
  | .sameAs index, s =>
    match s.groups.lookup index with
    | some text =>
      (Spot.consumeText (fun c d => if ignoreCase then Text.sameIgnoringCase c d else c == d)
        text s).toList
    | none => []
  | .seq first second, s => (ways ignoreCase first s).flatMap (ways ignoreCase second)
  | .alt first second, s => ways ignoreCase first s ++ ways ignoreCase second s
  | .times body least most greedy, s =>
    roundWays (fun s => ways ignoreCase body s) least most greedy
      (least + s.ahead.length + 2) 0 none s

end Node

theorem findSome?_toList {α β : Type} (o : Option α) (k : α → Option β) :
    o.toList.findSome? k = o.bind k := by
  cases o with
  | none => rfl
  | some a => simp [Option.toList]

theorem findSome?_flatMap {α β γ : Type} (l : List α) (f : α → List β) (k : β → Option γ) :
    (l.flatMap f).findSome? k = l.findSome? fun a => (f a).findSome? k := by
  induction l with
  | nil => rfl
  | cons a l ih =>
      rw [List.flatMap_cons, List.findSome?_append, List.findSome?_cons, ih]
      cases (f a).findSome? k <;> rfl

theorem rounds_eq_findSome? {body : Spot → Continuation → Option Spot}
    {bodyWays : Spot → List Spot} (hbody : ∀ s k, body s k = (bodyWays s).findSome? k)
    (least : Nat) (most : Option Nat) (greedy : Bool) (fuel count : Nat) (last : Option Nat)
    (s : Spot) (k : Continuation) :
    rounds body least most greedy fuel count last s k
      = (roundWays bodyWays least most greedy fuel count last s).findSome? k := by
  induction fuel generalizing count last s with
  | zero => rfl
  | succ fuel ih =>
      unfold rounds roundWays
      simp only [hbody, ih]
      split
      · rw [findSome?_flatMap]
      · split
        · simp
        · split
          · rw [List.findSome?_append, findSome?_flatMap]
            cases (bodyWays s).findSome? _ <;> simp
          · rw [List.findSome?_cons, findSome?_flatMap]
            cases k s <;> rfl

/-- A repetition stops here or goes one round more, as its bounds allow. -/
theorem mem_roundWays_succ {body : Spot → List Spot} {least : Nat} {most : Option Nat}
    {greedy : Bool} {fuel count : Nat} {last : Option Nat} {s t : Spot}
    (hlast : ∀ p ∈ last, p < s.position) :
    t ∈ roundWays body least most greedy (fuel + 1) count last s
      ↔ least ≤ count ∧ t = s ∨ (count < least ∨ ∀ m ∈ most, count < m) ∧ ∃ r ∈ body s,
        t ∈ roundWays body least most greedy fuel (count + 1)
          (if count < least then last else some s.position) r := by
  have hmoved : (last != some s.position) = true := by
    rw [bne_iff_ne]
    exact fun h => absurd (hlast _ h) (Nat.lt_irrefl _)
  have hmay : (most.map fun m => decide (count < m)).getD true = true ↔ ∀ m ∈ most, count < m := by
    cases most <;> simp
  simp only [roundWays, hmoved, Bool.and_true]
  by_cases hc : count < least
  · simp [hc, Nat.not_le_of_lt hc]
  have hleast : least ≤ count := Nat.le_of_not_lt hc
  by_cases hgo : ∀ m ∈ most, count < m
  · simp only [hc, hmay.mpr hgo, hleast, eq_true hgo, if_false, Bool.not_true,
      Bool.false_eq_true, true_and, or_true]
    cases greedy <;> simp [or_comm]
  · have hno : (most.map fun m => decide (count < m)).getD true = false :=
      Bool.eq_false_iff.mpr (mt hmay.mp hgo)
    simp only [hc, hno, hleast, hgo, if_false, Bool.not_false, if_true, true_and,
      false_and, or_false, List.mem_singleton]

namespace Node

/-- Matching is the search for the first of the ways with which the continuation succeeds. The
induction is on the node, and for repetitions on the fuel of their rounds. -/
theorem run_eq_findSome? (ignoreCase : Bool) (n : Node) (s : Spot) (k : Continuation) :
    n.run ignoreCase s k = (n.ways ignoreCase s).findSome? k := by
  induction n generalizing s k with
  | empty => simp [run, ways]
  | char c => rw [run, ways, findSome?_toList]
  | anyChar => rw [run, ways, findSome?_toList]
  | oneOf negated items => rw [run, ways, findSome?_toList]
  | place p => rw [run, ways]; split <;> simp
  | group index body ih => rw [run, ways, ih, List.findSome?_map]; rfl
  | sameAs index =>
      simp only [run, ways]
      cases s.groups.lookup index with
      | none => rfl
      | some text => simp only [findSome?_toList]
  | seq first second ihf ihs => simp only [run, ways, ihf, ihs, findSome?_flatMap]
  | alt first second ihf ihs =>
      rw [run, ways, ihf, ihs, List.findSome?_append]
      cases (first.ways ignoreCase s).findSome? k <;> rfl
  | times body least most greedy ih =>
      rw [run, ways]
      exact rounds_eq_findSome? ih least most greedy _ _ _ s k

/-! ## Single characters and their repetition -/

/-- The node takes one character of a class. -/
def OneChar (ignoreCase : Bool) (n : Node) (accepts : Char → Bool) : Prop :=
  ∀ s, n.ways ignoreCase s = (s.consume accepts).toList

theorem oneChar_anyChar (ignoreCase : Bool) : anyChar.OneChar ignoreCase (· != '\n') := fun _ => rfl

theorem oneChar_char (c : Char) : (char c).OneChar false (c == ·) := fun _ => rfl

theorem oneChar_oneOf (ignoreCase negated : Bool) (items : List SetItem) :
    (oneOf negated items).OneChar ignoreCase
      fun c => items.any (·.holds ignoreCase c) != negated :=
  fun _ => rfl

theorem oneChar_named (ignoreCase : Bool) (cls : NamedClass) (negated : Bool) :
    (oneOf false [.named cls negated]).OneChar ignoreCase fun c => cls.holds c != negated := by
  intro s
  simp [ways, SetItem.holds]

end Node

/-- The numbers of rounds from `least` to `upTo`, in the order in which a repetition tries them. -/
def roundCounts (greedy : Bool) (least upTo : Nat) : List Nat :=
  let counts := List.range' least (upTo + 1 - least)
  if greedy then counts.reverse else counts

theorem roundCounts_of_lt (greedy : Bool) {least upTo : Nat} (h : upTo < least) :
    roundCounts greedy least upTo = [] := by
  have hnone : upTo + 1 - least = 0 := by omega
  cases greedy <;> simp [roundCounts, hnone]

theorem roundCounts_succ_succ (greedy : Bool) (least upTo : Nat) :
    roundCounts greedy (least + 1) (upTo + 1) = (roundCounts greedy least upTo).map (1 + ·) := by
  have hsame : upTo + 1 + 1 - (least + 1) = upTo + 1 - least := by omega
  have hshift : List.range' (least + 1) (upTo + 1 - least)
      = (List.range' least (upTo + 1 - least)).map (1 + ·) := by
    rw [Nat.add_comm, List.map_add_range']
  cases greedy <;> simp only [roundCounts, hsame, hshift, List.map_reverse, if_true,
    Bool.false_eq_true, if_false]

theorem roundCounts_zero_succ (greedy : Bool) (upTo : Nat) :
    roundCounts greedy 0 (upTo + 1)
      = if greedy then (roundCounts greedy 0 upTo).map (1 + ·) ++ [0]
        else 0 :: (roundCounts greedy 0 upTo).map (1 + ·) := by
  rw [← roundCounts_succ_succ]
  cases greedy <;> simp [roundCounts, List.range'_succ]

/-- The rounds of a repetition of single characters go along the run of those it accepts, so where
they can end is told by the length of this run alone. -/
theorem roundWays_oneChar {body : Spot → List Spot} {accepts : Char → Bool}
    (hbody : ∀ s, body s = (s.consume accepts).toList) (least : Nat) (greedy : Bool)
    {fuel count : Nat} {last : Option Nat} {s : Spot} (hfuel : s.ahead.length < fuel)
    (hlast : ∀ p ∈ last, p < s.position) :
    roundWays body least none greedy fuel count last s
      = (roundCounts greedy (least - count) (s.ahead.takeWhile accepts).length).map (s.skip ·) := by
  induction fuel generalizing count last s with
  | zero => omega
  | succ fuel ih =>
      have hmove : (last != some s.position) = true := by
        rw [bne_iff_ne]
        exact fun h => absurd (hlast _ h) (Nat.lt_irrefl _)
      simp only [roundWays, Option.map_none, Option.getD_none, hmove, Bool.and_self,
        Bool.not_true, Bool.false_eq_true, if_false]
      by_cases htake : ∃ c rest, s.ahead = c :: rest ∧ accepts c = true
      · obtain ⟨c, rest, hs, hc⟩ := htake
        have hone : body s = [s.advance c rest] := by simp [hbody, Spot.consume, hs, hc]
        have hrun : (s.ahead.takeWhile accepts).length = (rest.takeWhile accepts).length + 1 := by
          rw [hs, List.takeWhile_cons_of_pos hc, List.length_cons]
        have hskip : (fun n => (s.advance c rest).skip n) = fun n => s.skip (1 + n) := by
          funext n
          rw [Nat.add_comm, Spot.skip_succ hs]
        -- the rounds after this one, wherever they count from
        have hrest (count : Nat) (last : Option Nat) (hlast : ∀ p ∈ last, p ≤ s.position) :
            roundWays body least none greedy fuel count last (s.advance c rest)
              = (roundCounts greedy (least - count) (rest.takeWhile accepts).length).map
                fun n => s.skip (1 + n) := by
          rw [← hskip]
          refine ih (s := s.advance c rest) ?_ fun p hp => Nat.lt_succ_of_le (hlast p hp)
          simpa [Spot.advance, hs] using hfuel
        rw [hone, List.flatMap_singleton, List.flatMap_singleton, hrun,
          hrest _ _ fun p hp => Nat.le_of_lt (hlast p hp), hrest _ (some s.position) (by simp)]
        split
        next hc =>
          obtain ⟨more, hmore⟩ : ∃ more, least - count = more + 1 := ⟨least - count - 1, by omega⟩
          have hless : least - (count + 1) = more := by omega
          rw [hless, hmore, roundCounts_succ_succ, List.map_map]
          rfl
        next hc =>
          have henough : least - count = 0 := Nat.sub_eq_zero_of_le (Nat.le_of_not_lt hc)
          have henough' : least - (count + 1) = 0 := by omega
          rw [henough, henough', roundCounts_zero_succ]
          cases greedy <;> simp [Function.comp_def]
      · have hnone : body s = [] := by
          rw [hbody, Spot.consume]
          cases hs : s.ahead with
          | nil => rfl
          | cons c rest => simp [show accepts c = false by simpa [hs] using htake]
        have hrun : (s.ahead.takeWhile accepts).length = 0 := by
          cases hs : s.ahead with
          | nil => rfl
          | cons c rest => simp [show accepts c = false by simpa [hs] using htake]
        rw [hnone, hrun]
        split
        next hc => rw [roundCounts_of_lt greedy (by omega)]; rfl
        next hc =>
          rw [Nat.sub_eq_zero_of_le (Nat.le_of_not_lt hc)]
          cases greedy <;> rfl

namespace Node

/-- A repetition of single characters reaches the spots along the run of characters it accepts. -/
theorem ways_times_none {ignoreCase : Bool} {n : Node} {accepts : Char → Bool}
    (h : n.OneChar ignoreCase accepts) (least : Nat) (greedy : Bool) (s : Spot) :
    (times n least none greedy).ways ignoreCase s
      = (roundCounts greedy least (s.ahead.takeWhile accepts).length).map (s.skip ·) :=
  roundWays_oneChar h least greedy (by omega) (by simp)

end Node

end BankStatement.Pattern
