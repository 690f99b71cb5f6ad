import BankStatement.Proofs.Matching.WrittenGlob
import BankStatement.Proofs.Pattern.Words

/-!
# What an alias covers

Every character of an alias stands for a stretch of the text: `*` for any run of characters, `?` for
one, every other character for one that counts as the same. An alias covers a text that these
stretches make up (`Covers`). Which characters a wildcard takes and which count as the same is left
open in a `Reading`; the pattern of an alias reads line feeds as no characters and ignores case
(`Reading.ofPattern`), and the alias matches a text exactly when it covers it in that reading, a
line feed at the end of the text aside (`globMatches_iff`). On a text of one line this is the
reading of those who write aliases, in which the wildcards take every character
(`globMatches_iff_covers`).

The program turns an alias into a pattern by quoting all of it and replacing the quoted wildcards.
That this writes each character on its own, and that the pattern is read back as the row of their
nodes, is in `Proofs.Matching.WrittenGlob`; here the nodes are given, and what they match is read
off their words, one node at a time. The order in which a run tries its lengths is of no interest,
as it is only asked whether there is a match.

The letters that count as the same are those of the pattern reader, which has more of them than
lower case: the long s is an s, and the sign for kelvin is a k.
-/

namespace BankStatement.Matching

open Pattern (Node Spot)

/-- How the characters of an alias are read. -/
structure Reading where
  /-- What stands in a run. -/
  inRun : Char → Prop
  /-- What one wildcard character takes. -/
  single : Char → Prop
  /-- What a character that is no wildcard takes. -/
  same : Char → Char → Prop

/-- The stretches of a text that a character of an alias stands for. -/
def Reading.StandsFor (σ : Reading) : Char → Text → Prop
  | '*', w => ∀ c ∈ w, σ.inRun c
  | '?', w => ∃ c, σ.single c ∧ w = [c]
  | x, w => ∃ c, σ.same x c ∧ w = [c]

/-- The alias covers the text. -/
inductive Covers (σ : Reading) : Text → Text → Prop
  | nil : Covers σ [] []
  | cons {x : Char} {p w t : Text} (hw : σ.StandsFor x w) (ht : Covers σ p t) :
      Covers σ (x :: p) (w ++ t)

namespace Reading

/-- The reading of the pattern of an alias. -/
def ofPattern : Reading where
  inRun c := c ≠ '\n'
  single c := c ≠ '\n'
  same x c := Text.sameIgnoringCase x c = true

/-- The reading of an alias by its user: case is ignored. -/
def ignoringCase : Reading where
  inRun _ := True
  single _ := True
  same x c := Text.sameIgnoringCase x c = true

instance : DecidableRel ofPattern.same := fun _ _ => inferInstanceAs (Decidable (_ = true))

instance : DecidableRel ignoringCase.same := fun _ _ => inferInstanceAs (Decidable (_ = true))

theorem standsFor_of_ne {σ : Reading} {x : Char} (hrun : x ≠ '*') (hone : x ≠ '?') (w : Text) :
    σ.StandsFor x w ↔ ∃ c, σ.same x c ∧ w = [c] := by
  unfold StandsFor
  split
  · exact absurd rfl hrun
  · exact absurd rfl hone
  · exact Iff.rfl

end Reading

theorem Covers.nil_iff {σ : Reading} {t : Text} : Covers σ [] t ↔ t = [] := by
  constructor
  · rintro ⟨⟩
    rfl
  · rintro rfl
    exact .nil

/-- The text of a character that is no wildcard is found in what the alias covers. So an alias can
be told not to match by one character alone. -/
theorem Covers.exists_same {σ : Reading} {p t : Text} (h : Covers σ p t) {x : Char} (hx : x ∈ p)
    (hrun : x ≠ '*') (hone : x ≠ '?') : ∃ c ∈ t, σ.same x c := by
  induction h with
  | nil => cases hx
  | cons hw ht ih =>
      rcases List.mem_cons.mp hx with rfl | hx
      · obtain ⟨c, hc, rfl⟩ := (Reading.standsFor_of_ne hrun hone _).mp hw
        exact ⟨c, List.mem_cons_self, hc⟩
      · obtain ⟨c, hmem, hc⟩ := ih hx
        exact ⟨c, List.mem_append_right _ hmem, hc⟩

theorem Covers.append {σ : Reading} {p q s t : Text} (hs : Covers σ p s) (ht : Covers σ q t) :
    Covers σ (p ++ q) (s ++ t) := by
  induction hs with
  | nil => exact ht
  | cons hw hs ih =>
      rw [List.cons_append, List.append_assoc]
      exact .cons hw ih

/-- Without wildcards an alias goes along the text. -/
theorem Covers.literal {σ : Reading} {p t : Text} (hwild : ∀ x ∈ p, x ≠ '*' ∧ x ≠ '?')
    (hlength : p.length = t.length) (hsame : ∀ pair ∈ p.zip t, σ.same pair.1 pair.2) :
    Covers σ p t := by
  induction p generalizing t with
  | nil =>
      obtain rfl := List.eq_nil_of_length_eq_zero hlength.symm
      exact .nil
  | cons x p ih =>
      obtain ⟨c, t, rfl⟩ := List.exists_cons_of_length_eq_add_one hlength.symm
      obtain ⟨⟨hrun, hone⟩, hwild⟩ := List.forall_mem_cons.mp hwild
      obtain ⟨hx, hsame⟩ := List.forall_mem_cons.mp hsame
      exact .cons ((Reading.standsFor_of_ne hrun hone [c]).mpr ⟨c, hx, rfl⟩)
        (ih hwild (Nat.succ.inj hlength) hsame)

/-! ## The pattern of an alias -/

theorem reads_globNode (x : Char) : (globNode x).Reads true (Reading.ofPattern.StandsFor x) := by
  unfold globNode
  split
  · refine ((Node.oneChar_anyChar true).reads_times (by simp) true).congr fun w => ?_
    simp [Reading.StandsFor, Reading.ofPattern]
  · refine (Node.oneChar_anyChar true).reads.congr fun w => ?_
    simp [Reading.StandsFor, Reading.ofPattern]
  · next hrun hone =>
    have hsingle : (Node.char x).OneChar true (Text.sameIgnoringCase x) := fun _ => rfl
    exact hsingle.reads.congr fun w =>
      (@Reading.standsFor_of_ne .ofPattern x hrun hone w).symm

theorem mem_ways_ofList_cons (ignoreCase : Bool) (n : Node) (rest : List Node) (s e : Spot) :
    e ∈ (Node.ofList (n :: rest)).ways ignoreCase s
      ↔ ∃ r ∈ n.ways ignoreCase s, e ∈ (Node.ofList rest).ways ignoreCase r := by
  cases rest with
  | nil => simp [Node.ofList, Node.ways]
  | cons m rest => simp [Node.ofList, Node.ways]

/-- The nodes of some characters, followed by the end of the line, find a way exactly if the
characters cover what is ahead. The end of the line is also in front of a last line feed. -/
theorem exists_way_iff (p : Text) (s : Spot) :
    (∃ e, e ∈ (Node.ofList (p.map globNode ++ [.place .lineEnd])).ways true s)
      ↔ ∃ t, (s.ahead = t ∨ s.ahead = t ++ ['\n']) ∧ Covers .ofPattern p t := by
  induction p generalizing s with
  | nil =>
      have hend : s.isAt .lineEnd = true ↔ s.ahead = [] ∨ s.ahead = ['\n'] := by
        simp [Spot.isAt]
      simp only [List.map_nil, List.nil_append, Node.ofList, Node.ways, Covers.nil_iff,
        exists_eq_right, ← hend]
      split <;> simp [*]
  | cons x p ih =>
      rw [List.map_cons, List.cons_append]
      constructor
      · rintro ⟨e, he⟩
        obtain ⟨r, hr, he⟩ := (mem_ways_ofList_cons ..).mp he
        obtain ⟨w, hw, ⟨rest, hrest⟩, rfl⟩ := (reads_globNode x s r).mp hr
        obtain ⟨t, hahead, ht⟩ := (ih _).mp ⟨e, he⟩
        rw [Spot.ahead_skip, ← hrest, List.drop_left] at hahead
        refine ⟨w ++ t, ?_, .cons hw ht⟩
        rw [← hrest, List.append_assoc]
        exact hahead.imp (congrArg (w ++ ·)) (congrArg (w ++ ·))
      · rintro ⟨_, hahead, hcovers⟩
        cases hcovers with
        | @cons _ _ w t hw ht =>
            have hrest : ∃ rest, s.ahead = w ++ rest ∧ (rest = t ∨ rest = t ++ ['\n']) := by
              rcases hahead with hahead | hahead
              · exact ⟨t, hahead, .inl rfl⟩
              · exact ⟨t ++ ['\n'], by rw [hahead, List.append_assoc], .inr rfl⟩
            obtain ⟨rest, hahead, hend⟩ := hrest
            have hskip : (s.skip w.length).ahead = rest := by
              rw [Spot.ahead_skip, hahead, List.drop_left]
            obtain ⟨e, he⟩ := (ih (s.skip w.length)).mpr ⟨t, hskip ▸ hend, ht⟩
            have hread : s.skip w.length ∈ (globNode x).ways true s :=
              (reads_globNode x s _).mpr ⟨w, hw, ⟨rest, hahead.symm⟩, rfl⟩
            exact ⟨e, (mem_ways_ofList_cons ..).mpr ⟨_, hread, he⟩⟩

/-- An alias matches the texts that it covers in lower case, with a line feed at the end or
without. -/
theorem globMatches_iff {alias_ text : Text} :
    globMatches alias_ text = true
      ↔ ∃ t, (text = t ∨ text = t ++ ['\n']) ∧ Covers .ofPattern (Text.lower alias_) t := by
  have hstart : (Node.place .start).ways true ⟨0, none, text, []⟩ = [⟨0, none, text, []⟩] := rfl
  rw [← exists_way_iff (Text.lower alias_) ⟨0, none, text, []⟩, globMatches, globPattern_eq,
    Pattern.matchStart?, Pattern.matchAt, Option.isSome_map, Node.run_eq_findSome?,
    List.findSome?_isSome_iff]
  simp only [Option.isSome_some, and_true, List.cons_append, mem_ways_ofList_cons,
    hstart, List.mem_singleton, exists_eq_left]

/-! ## Texts without line feeds -/

/-- What one character stands for depends on the reading of the characters taken. -/
theorem Reading.StandsFor.of_imp {σ τ : Reading} {x : Char} {w : Text} (h : σ.StandsFor x w)
    (hrun : ∀ c ∈ w, σ.inRun c → τ.inRun c) (hsingle : ∀ c ∈ w, σ.single c → τ.single c)
    (hsame : ∀ c ∈ w, σ.same x c → τ.same x c) : τ.StandsFor x w := by
  unfold Reading.StandsFor at h ⊢
  split at h
  · exact fun c hc => hrun c hc (h c hc)
  · obtain ⟨c, hc, rfl⟩ := h
    exact ⟨c, hsingle c (List.mem_singleton_self c) hc, rfl⟩
  · obtain ⟨c, hc, rfl⟩ := h
    exact ⟨c, hsame c (List.mem_singleton_self c) hc, rfl⟩

/-- A text that is covered in one reading is covered in another that agrees on its characters, so
readings can be compared on the text alone. -/
theorem Covers.of_imp {σ τ : Reading} {p t : Text} (h : Covers σ p t)
    (hrun : ∀ c ∈ t, σ.inRun c → τ.inRun c) (hsingle : ∀ c ∈ t, σ.single c → τ.single c)
    (hsame : ∀ x, ∀ c ∈ t, σ.same x c → τ.same x c) : Covers τ p t := by
  induction h with
  | nil => exact .nil
  | cons hw ht ih =>
      simp only [List.mem_append] at hrun hsingle hsame
      refine .cons (hw.of_imp (fun c hc => hrun c (.inl hc)) (fun c hc => hsingle c (.inl hc))
        fun c hc => hsame _ c (.inl hc)) (ih (fun c hc => hrun c (.inr hc))
          (fun c hc => hsingle c (.inr hc)) fun x c hc => hsame x c (.inr hc))

/-- Every alias makes a pattern, and this pattern matches the texts of one line that the alias
covers in lower case, and no others. -/
theorem globMatches_iff_covers {alias_ text : Text} (hline : '\n' ∉ text) :
    (∃ p, Pattern.ofText (globSource alias_) = .ok p)
      ∧ (globMatches alias_ text = true ↔ Covers .ignoringCase (Text.lower alias_) text) := by
  refine ⟨⟨_, ofText_globSource alias_⟩, globMatches_iff.trans ?_⟩
  constructor
  · rintro ⟨t, rfl | rfl, ht⟩
    · exact ht.of_imp (fun _ _ _ => trivial) (fun _ _ _ => trivial) fun _ _ _ h => h
    · exact absurd (List.mem_append_right t (List.mem_singleton_self _)) hline
  · intro h
    have hne : ∀ c ∈ text, c ≠ '\n' := fun c hc => ne_of_mem_of_not_mem hc hline
    exact ⟨text, .inl rfl, h.of_imp (fun c hc _ => hne c hc) (fun c hc _ => hne c hc)
      fun _ _ _ h => h⟩

/-- A backslash in front of a wildcard stands for itself, and so do brackets; the long s is an s. -/
theorem globMatches_iff_covers_marks :
    globMatches "S\\*[?]".toList "ſ\\a.b[K]".toList = true
      ∧ Covers .ignoringCase (Text.lower "S\\*[?]".toList) "ſ\\a.b[K]".toList := by
  have hcovers : Covers .ignoringCase "s\\*[?]".toList "ſ\\a.b[K]".toList :=
    (Covers.literal (p := "s\\".toList) (t := "ſ\\".toList) (forall_mem_of_all (by decide)) rfl
        (by decide +kernel)).append
      (.cons (x := '*') (w := "a.b".toList) (fun _ _ => trivial)
        (.cons (x := '[') (w := ['[']) ⟨'[', by decide, rfl⟩
          (.cons (x := '?') (w := ['K']) ⟨'K', trivial, rfl⟩
            (.cons (x := ']') (w := [']']) ⟨']', by decide, rfl⟩ .nil))))
  have hlower : Text.lower "S\\*[?]".toList = "s\\*[?]".toList := by decide +kernel
  rw [hlower]
  exact ⟨(globMatches_iff_covers (by decide)).2.mpr (hlower ▸ hcovers), hcovers⟩

end BankStatement.Matching
