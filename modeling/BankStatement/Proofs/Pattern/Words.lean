import BankStatement.Proofs.Pattern.Ways

/-!
# The words of a pattern

A node that remembers no group and asks for no place reads words: from a spot it reaches the ends of
those words of a language that stand ahead, and nothing else (`Reads`). The languages are put
together like the nodes: a row reads the words of its parts one behind the other (`Reads.seq`), a
repetition whose body moves on reads any number of words of the body (`Reads.times`).

`Reads` forgets in which order the words are tried. That is enough wherever only one word can lead
to a match, or where it is only asked whether there is one.

A language is a predicate of texts, chosen by whoever states what a pattern reads: short amounts,
dates with two digits for the year, runs of letters. It need not be the one that the node spells
out, as long as the two have the same words (`Reads.congr`). So the statements about statements of a
bank speak of dates and amounts, and only one lemma for each of these looks at the node.

A body that could read the empty word is left out of `Reads.times`. A round in which it takes
nothing ends the repetition, and the words would not be those of the language repeated any more.
-/

namespace BankStatement.Pattern.Node

variable {ignoreCase : Bool} {a b : Node} {A B : Text → Prop}

/-- From every spot the node reaches the ends of the words of a language that stand ahead. -/
def Reads (ignoreCase : Bool) (n : Node) (A : Text → Prop) : Prop :=
  ∀ s t, t ∈ n.ways ignoreCase s ↔ ∃ w, A w ∧ w <+: s.ahead ∧ t = s.skip w.length

theorem Reads.congr (h : a.Reads ignoreCase A) (hsame : ∀ w, A w ↔ B w) :
    a.Reads ignoreCase B := by
  intro s t
  simp only [h s t, hsame]

theorem reads_empty (ignoreCase : Bool) : empty.Reads ignoreCase (· = []) := by
  intro s t
  simp [ways]

theorem Reads.seq (ha : a.Reads ignoreCase A) (hb : b.Reads ignoreCase B) :
    (seq a b).Reads ignoreCase fun w => ∃ u v, A u ∧ B v ∧ w = u ++ v := by
  intro s t
  simp only [ways, List.mem_flatMap]
  constructor
  · rintro ⟨r, hr, ht⟩
    obtain ⟨u, hu, ⟨rest, hrest⟩, rfl⟩ := (ha s r).mp hr
    obtain ⟨v, hv, hahead, rfl⟩ := (hb _ t).mp ht
    rw [Spot.ahead_skip, ← hrest, List.drop_left] at hahead
    refine ⟨u ++ v, ⟨u, v, hu, hv, rfl⟩, ?_, ?_⟩
    · rw [← hrest]
      exact (List.prefix_append_right_inj u).mpr hahead
    · rw [Spot.skip_skip, List.length_append]
  · rintro ⟨_, ⟨u, v, hu, hv, rfl⟩, ⟨rest, hrest⟩, rfl⟩
    have hahead : s.ahead = u ++ (v ++ rest) := by rw [← hrest, List.append_assoc]
    refine ⟨s.skip u.length, (ha s _).mpr ⟨u, hu, ⟨_, hahead.symm⟩, rfl⟩,
      (hb _ _).mpr ⟨v, hv, ?_, ?_⟩⟩
    · rw [Spot.ahead_skip, hahead, List.drop_left]
      exact List.prefix_append v rest
    · rw [Spot.skip_skip, List.length_append]

/-- Some words of a language in a row, as many as a repetition allows. -/
def Repeated (A : Text → Prop) (least : Nat) (most : Option Nat) (w : Text) : Prop :=
  ∃ words : List Text, (∀ u ∈ words, A u) ∧ w = words.flatten ∧ least ≤ words.length
    ∧ ∀ m ∈ most, words.length ≤ m

theorem flatten_cons_prefix {w : Text} {words : List Text} {t : Text} :
    (w :: words).flatten <+: t ↔ w <+: t ∧ words.flatten <+: t.drop w.length := by
  rw [List.flatten_cons]
  constructor
  · rintro ⟨rest, rfl⟩
    rw [List.append_assoc]
    refine ⟨List.prefix_append .., ?_⟩
    rw [List.drop_left]
    exact List.prefix_append ..
  · rintro ⟨⟨rest, rfl⟩, hwords⟩
    rw [List.drop_left] at hwords
    exact (List.prefix_append_right_inj w).mpr hwords

/-- What the rounds of a repetition read, `count` of them being done. The induction is on the fuel,
which lasts because each round moves on. -/
theorem mem_roundWays (hbody : a.Reads ignoreCase A) (hmove : ¬ A []) {least : Nat}
    {most : Option Nat} (greedy : Bool) {fuel count : Nat} {last : Option Nat} {s t : Spot}
    (hfuel : s.ahead.length < fuel) (hlast : ∀ p ∈ last, p < s.position)
    (hcount : ∀ m ∈ most, least ≤ m ∧ count ≤ m) :
    t ∈ roundWays (a.ways ignoreCase) least most greedy fuel count last s
      ↔ ∃ words : List Text, (∀ u ∈ words, A u) ∧ least ≤ count + words.length
        ∧ (∀ m ∈ most, count + words.length ≤ m) ∧ words.flatten <+: s.ahead
        ∧ t = s.skip words.flatten.length := by
  induction fuel generalizing count last s with
  | zero => omega
  | succ fuel ih =>
      rw [mem_roundWays_succ hlast]
      -- the rounds after one that has read a word
      have hround (w : Text) (hw : A w) (hahead : w <+: s.ahead)
          (hmay : ∀ m ∈ most, count < m) := by
        have hpos : 0 < w.length := List.length_pos_iff.mpr fun h => hmove (h ▸ hw)
        have hlen := hahead.length_le
        refine @ih (count + 1) (if count < least then last else some s.position) (s.skip w.length)
          ?_ ?_ fun m hm => ⟨(hcount m hm).1, hmay m hm⟩
        · rw [Spot.ahead_skip, List.length_drop]
          omega
        · intro p hp
          rw [Spot.position_skip hlen]
          split at hp
          · have := hlast p hp
            omega
          · cases hp
            omega
      constructor
      · rintro (⟨hleast, rfl⟩ | ⟨hmay, r, hr, ht⟩)
        · exact ⟨[], by simp, hleast, fun m hm => (hcount m hm).2, List.nil_prefix, rfl⟩
        · have hmay' : ∀ m ∈ most, count < m :=
            hmay.elim (fun hc m hm => Nat.lt_of_lt_of_le hc (hcount m hm).1) id
          obtain ⟨w, hw, hahead, rfl⟩ := (hbody s r).mp hr
          obtain ⟨words, hall, hleast, hmost, hprefix, rfl⟩ := (hround w hw hahead hmay').mp ht
          rw [Spot.ahead_skip] at hprefix
          refine ⟨w :: words, List.forall_mem_cons.mpr ⟨hw, hall⟩, ?_, fun m hm => ?_,
            flatten_cons_prefix.mpr ⟨hahead, hprefix⟩, ?_⟩
          · rw [List.length_cons]
            omega
          · have := hmost m hm
            rw [List.length_cons]
            omega
          · rw [Spot.skip_skip, List.flatten_cons, List.length_append]
      · rintro ⟨words, hall, hleast, hmost, hprefix, rfl⟩
        cases words with
        | nil => exact .inl ⟨hleast, rfl⟩
        | cons w words =>
            obtain ⟨hw, hall⟩ := List.forall_mem_cons.mp hall
            obtain ⟨hahead, hprefix⟩ := flatten_cons_prefix.mp hprefix
            rw [List.length_cons] at hleast hmost
            have hmay : ∀ m ∈ most, count < m := fun m hm => by have := hmost m hm; omega
            refine .inr ⟨.inr hmay, s.skip w.length, (hbody s _).mpr ⟨w, hw, hahead, rfl⟩,
              (hround w hw hahead hmay).mpr ⟨words, hall, by omega, fun m hm => ?_, ?_, ?_⟩⟩
            · have := hmost m hm
              omega
            · rwa [Spot.ahead_skip]
            · rw [Spot.skip_skip, List.flatten_cons, List.length_append]

/-- A repetition whose body moves on reads words of the body in a row, as many as its bounds allow,
greedy or not. -/
theorem Reads.times (h : a.Reads ignoreCase A) (hmove : ¬ A []) {least : Nat} {most : Option Nat}
    (hmost : ∀ m ∈ most, least ≤ m) (greedy : Bool) :
    (times a least most greedy).Reads ignoreCase (Repeated A least most) := by
  intro s t
  rw [ways, mem_roundWays h hmove greedy (by omega) (by simp)
    fun m hm => ⟨hmost m hm, Nat.zero_le m⟩]
  constructor
  · rintro ⟨words, hall, hleast, hmany, hahead, rfl⟩
    exact ⟨_, ⟨words, hall, rfl, by omega, fun m hm => by have := hmany m hm; omega⟩, hahead, rfl⟩
  · rintro ⟨_, ⟨words, hall, rfl, hleast, hmany⟩, hahead, rfl⟩
    exact ⟨words, hall, by omega, fun m hm => by have := hmany m hm; omega, hahead, rfl⟩

/-! ## Single characters -/

theorem OneChar.reads {n : Node} {accepts : Char → Bool} (h : n.OneChar ignoreCase accepts) :
    n.Reads ignoreCase fun w => ∃ c, accepts c = true ∧ w = [c] := by
  intro s t
  rw [h, Option.mem_toList, Spot.consume]
  constructor
  · intro ht
    split at ht
    next c rest hs =>
      split at ht
      next hc =>
        cases ht
        exact ⟨[c], ⟨c, hc, rfl⟩, hs ▸ List.prefix_append [c] rest, (Spot.skip_succ hs 0).symm⟩
      next => cases ht
    next => cases ht
  · rintro ⟨_, ⟨c, hc, rfl⟩, ⟨rest, hrest⟩, rfl⟩
    have hs : s.ahead = c :: rest := hrest.symm
    simp only [hs, hc, if_true]
    exact congrArg some (Spot.skip_succ hs 0).symm

/-- A repetition of single characters reads the runs of characters of their class. -/
theorem OneChar.reads_times {n : Node} {accepts : Char → Bool} (h : n.OneChar ignoreCase accepts)
    {least : Nat} {most : Option Nat} (hmost : ∀ m ∈ most, least ≤ m) (greedy : Bool) :
    (times n least most greedy).Reads ignoreCase
      fun w => (∀ c ∈ w, accepts c = true) ∧ least ≤ w.length ∧ ∀ m ∈ most, w.length ≤ m := by
  refine (h.reads.times (by simp) hmost greedy).congr fun w => ?_
  constructor
  · rintro ⟨words, hall, rfl, hleast, hmany⟩
    have hlen : words.flatten.length = words.length := by
      have hone : words.map List.length = words.map fun _ => 1 := by
        refine List.map_congr_left fun u hu => ?_
        obtain ⟨c, -, rfl⟩ := hall u hu
        rfl
      rw [List.length_flatten, hone]
      simp
    refine ⟨fun c hc => ?_, hlen ▸ hleast, hlen ▸ hmany⟩
    obtain ⟨u, hu, hcu⟩ := List.mem_flatten.mp hc
    obtain ⟨d, hd, rfl⟩ := hall u hu
    rwa [List.mem_singleton.mp hcu]
  · rintro ⟨hall, hleast, hmany⟩
    refine ⟨w.map ([·]), fun u hu => ?_, ?_, by simpa using hleast, by simpa using hmany⟩
    · obtain ⟨c, hc, rfl⟩ := List.mem_map.mp hu
      exact ⟨c, hall c hc, rfl⟩
    · rw [← List.flatMap_def, List.flatMap_singleton']

end BankStatement.Pattern.Node
