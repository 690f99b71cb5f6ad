import BankStatement.Matching.Glob
import BankStatement.Proofs.Text.Classes
import BankStatement.Proofs.Text.Replacing

/-!
# The written pattern of an alias

Quoting leaves no wildcard in front of which there is no backslash, and a character behind its own
backslash is never taken for part of what stands around it. So replacing the quoted wildcards writes
every character of the alias on its own, whatever backslashes and other marks it holds
(`globSource_eq`), and what is written is read as the nodes of these characters, one behind the
other (`globPattern_eq`).

The program quotes the whole alias and replaces in the text that comes out, without looking at which
of its characters a backslash belongs to. In a text of other origin this could go wrong: two
backslashes in front of a wildcard are one quoted backslash, and a replacement that began with the
second one would break it. `IsQuoted` is what rules this out. Every written character is a backslash
with one character behind it or has no backslash, so a search for a backslash and a wildcard can
only begin where a written character begins (`replace_quoted`).

Reading goes the other way. The reader takes one atom at a time and looks behind it for a mark of
repetition. No character of an alias is written with such a mark in front (`noMark_globTexts`), so
the atom before it is not repeated; the one repetition there is belongs to a run and is written with
it.
-/

namespace BankStatement.Matching

open Pattern (Node ReadState)

/-! ## Writing the pattern -/

/-- A character of an alias after the first replacement. -/
def runText (c : Char) : Text := if c = '*' then ['.', '*'] else quoteChar c

/-- A character of an alias as it is written in the pattern. -/
def globText (c : Char) : Text := if c = '?' then ['.'] else runText c

/-- A written character between backslashes: it is one behind a backslash, or has none. -/
def IsQuoted (w : Text) : Prop := (∃ d, w = ['\\', d]) ∨ '\\' ∉ w

theorem isQuoted_quoteChar (c : Char) : IsQuoted (quoteChar c) := by
  unfold quoteChar
  split
  next => exact .inl ⟨c, rfl⟩
  next h =>
    refine .inr fun hmem => h ?_
    rw [← List.mem_singleton.mp hmem]
    decide

/-- Replacing a quoted character goes through quoted characters one by one: where the search stands,
it either finds one written character as a whole or passes it. -/
theorem replace_quoted {m : Char} (replacement : Text) {w t : Text}
    (hw : IsQuoted w) (ht : t.head? ≠ some m) :
    Text.replace ['\\', m] replacement (w ++ t)
      = (if w = ['\\', m] then replacement else w) ++ Text.replace ['\\', m] replacement t := by
  have hne : (['\\', m] : Text) ≠ [] := List.cons_ne_nil _ _
  split
  next h => rw [h, Text.replace_search_append hne]
  next h =>
    rcases hw with ⟨d, rfl⟩ | hw
    · have hd : m ≠ d := fun hmd => h (hmd ▸ rfl)
      have hfirst : (['\\', m] : Text).isPrefixOf ('\\' :: d :: t) = false := by
        simp [List.isPrefixOf, hd]
      have hsecond : (['\\', m] : Text).isPrefixOf (d :: t) = false := by
        cases t with
        | nil => simp [List.isPrefixOf]
        | cons e t =>
            have he : m ≠ e := fun hme => ht (hme ▸ rfl)
            simp [List.isPrefixOf, he]
      rw [List.cons_append, List.cons_append, List.nil_append,
        Text.replace_cons_of_not_prefix hne hfirst, Text.replace_cons_of_not_prefix hne hsecond]
      rfl
    · induction w with
      | nil => rfl
      | cons c w ih =>
          obtain ⟨hc, hrest⟩ := List.ne_and_not_mem_of_not_mem_cons hw
          have hno : (['\\', m] : Text).isPrefixOf (c :: (w ++ t)) = false := by
            simp [List.isPrefixOf, hc]
          rw [List.cons_append, Text.replace_cons_of_not_prefix hne hno,
            ih (fun heq => hrest (heq ▸ List.mem_cons_self)) hrest, List.cons_append]

/-- Replacing a quoted character in a text that is written character by character. -/
theorem replace_flatMap_quoted {m : Char} (replacement : Text) {f : Char → Text}
    (hf : ∀ c, IsQuoted (f c) ∧ f c ≠ [] ∧ (f c).head? ≠ some m) (t : Text) :
    Text.replace ['\\', m] replacement (t.flatMap f)
      = t.flatMap fun c => if f c = ['\\', m] then replacement else f c := by
  induction t with
  | nil => rfl
  | cons c t ih =>
      have hhead : (t.flatMap f).head? ≠ some m := by
        cases t with
        | nil => simp
        | cons d t =>
            obtain ⟨-, hne, hd⟩ := hf d
            obtain ⟨e, w, hw⟩ := List.exists_cons_of_ne_nil hne
            rw [hw] at hd
            rwa [List.flatMap_cons, hw]
      rw [List.flatMap_cons, replace_quoted replacement (hf c).1 hhead, ih, List.flatMap_cons]


theorem quoteChar_ne_nil (c : Char) : quoteChar c ≠ [] := by
  unfold quoteChar
  split <;> exact List.cons_ne_nil _ _

theorem head?_quoteChar {m : Char} (hm : m ∈ quotedChars) (hslash : m ≠ '\\') (c : Char) :
    (quoteChar c).head? ≠ some m := by
  unfold quoteChar
  split
  next => simpa using Ne.symm hslash
  next h =>
    rintro ⟨⟩
    exact h (by simpa using hm)

theorem quoteChar_eq_iff {m : Char} (hm : m ∈ quotedChars) (c : Char) :
    quoteChar c = ['\\', m] ↔ c = m := by
  constructor
  · intro h
    unfold quoteChar at h
    split at h <;> cases h
    rfl
  · rintro rfl
    rw [quoteChar, if_pos (by simpa using hm)]

theorem runText_eq_iff (c : Char) : runText c = ['\\', '?'] ↔ c = '?' := by
  unfold runText
  split
  next h => subst h; decide
  next => exact quoteChar_eq_iff (by decide) c

/-- Every character of an alias is written on its own. -/
theorem globSource_eq (alias_ : Text) :
    globSource alias_ = '^' :: ((Text.lower alias_).flatMap globText ++ ['$']) := by
  have hquoted (c : Char) (m : Char) (hm : m ∈ quotedChars) (hslash : m ≠ '\\') :=
    And.intro (isQuoted_quoteChar c)
      (And.intro (quoteChar_ne_nil c) (head?_quoteChar hm hslash c))
  have hruns : Text.replace ['\\', '*'] ['.', '*'] ((Text.lower alias_).flatMap quoteChar)
      = (Text.lower alias_).flatMap runText := by
    rw [replace_flatMap_quoted _ fun c => hquoted c '*' (by decide) (by decide)]
    simp only [quoteChar_eq_iff (m := '*') (by decide)]
    rfl
  have hsingles : Text.replace ['\\', '?'] ['.'] ((Text.lower alias_).flatMap runText)
      = (Text.lower alias_).flatMap globText := by
    rw [replace_flatMap_quoted]
    · simp only [runText_eq_iff]
      rfl
    · intro c
      unfold runText
      split
      · exact ⟨.inr (by decide), by decide, by decide⟩
      · exact hquoted c '?' (by decide) (by decide)
  rw [globSource, quote, hruns, hsingles]
  rfl

/-! ## Reading it -/

def globNode : Char → Node
  | '*' => .times .anyChar 0 none true
  | '?' => .anyChar
  | c => .char c

/-- Nothing ahead that could repeat what has been read. -/
def NoMark (t : Text) : Prop := ∀ c ∈ t.head?, c ∉ ['*', '+', '?', '\x7b']

theorem readBounds_of_noMark {t : Text} (h : NoMark t) : Pattern.readBounds t = .ok none := by
  unfold Pattern.readBounds
  split
  · exact absurd (h _ rfl) (by decide)
  · exact absurd (h _ rfl) (by decide)
  · exact absurd (h _ rfl) (by decide)
  · exact absurd (h _ rfl) (by decide)
  · rfl

theorem readRepetition_of_noMark (atom : Node) {t : Text} (h : NoMark t) :
    Pattern.readRepetition atom t = .ok (atom, t) := by
  rw [Pattern.readRepetition, readBounds_of_noMark h]
  rfl

theorem readRepetition_run {t : Text} (h : NoMark t) :
    Pattern.readRepetition .anyChar ('*' :: t) = .ok (.times .anyChar 0 none true, t) := by
  have hlazy : Pattern.takeLazyMark t = (true, t) := by
    unfold Pattern.takeLazyMark
    split
    · exact absurd (h _ rfl) (by decide)
    · rfl
  have hrun : Pattern.readBounds ('*' :: t) = .ok (some ((0, none), t)) := rfl
  simp only [Pattern.readRepetition, hrun, pure, Except.pure, bind, Except.bind,
    Pattern.isRepeatable, Pattern.Bounds.valid, Option.map_none, Option.getD_none, Bool.and_self,
    if_true, hlazy, readBounds_of_noMark h]

/-- What is read of a quoted character is the character. -/
theorem readEscape_of_quoted {c : Char} (h : c ∈ quotedChars) (st : ReadState) (rest : Text) :
    Pattern.readEscape st (c :: rest) = some (.char c, st.goTo rest) := by
  have hchars : ∀ c ∈ quotedChars, Pattern.classEscape? c = none ∧ c ∉ ['A', 'Z', 'b', 'B', '0']
      ∧ Value.isJsonDigit c = false ∧ (Pattern.controlEscape? c = some c
        ∨ Pattern.controlEscape? c = none ∧ Pattern.hexWidth? c = none
          ∧ Pattern.isAsciiLetter c = false) :=
    forall_mem_of_all (by decide)
  obtain ⟨hclass, hplace, hdigit, hchar⟩ := hchars c h
  simp only [List.mem_cons, List.not_mem_nil, or_false, not_or] at hplace
  obtain ⟨hA, hZ, hb, hB, h0⟩ := hplace
  have hread : Pattern.readCharEscape (c :: rest) = some (c, rest) := by
    rcases hchar with hcontrol | ⟨hcontrol, hhex, hletter⟩
    · simp only [Pattern.readCharEscape, hcontrol]
    · simp only [Pattern.readCharEscape, hcontrol, hhex, hletter, hdigit, Bool.or_self,
        Bool.false_eq_true, if_false]
  simp only [Pattern.readEscape, hclass, hA, hZ, hb, hB, h0, hdigit, hread, if_false,
    Bool.false_eq_true, Option.map_some]

theorem readAtom_plain {c : Char} (h : c ∉ quotedChars) (fuel : Nat) (st : ReadState)
    (rest : Text) :
    Pattern.readAtom (fuel + 1) (st.goTo (c :: rest)) = .ok (.char c, st.goTo rest) := by
  simp only [quotedChars, List.mem_cons, List.not_mem_nil, or_false, not_or] at h
  have hbounds : Pattern.readBounds (c :: rest) = .ok none := by
    simp [Pattern.readBounds, h]
  simp [Pattern.readAtom, ReadState.goTo, h, hbounds]

theorem readAtom_quoteChar (fuel : Nat) (c : Char) (rest : Text) (st : ReadState) :
    Pattern.readAtom (fuel + 1) (st.goTo (quoteChar c ++ rest)) = .ok (.char c, st.goTo rest) := by
  unfold quoteChar
  split
  next h =>
    have hquoted : c ∈ quotedChars := by simpa using h
    show Pattern.orInvalid (Pattern.readEscape _ (c :: rest)) = _
    rw [readEscape_of_quoted hquoted]
    rfl
  next h => exact readAtom_plain (by simpa using h) fuel st rest

/-- An atom ahead is read with its repetition, and reading goes on behind it. A bar or a closing
bracket would end the row and is left out. -/
theorem readSequence_atom {fuel : Nat} {done : List Node} {st : ReadState} {c : Char}
    {text behind after : Text} {atom node : Node} (hbar : c ≠ '|') (hclose : c ≠ ')')
    (hatom : Pattern.readAtom fuel (st.goTo (c :: text)) = .ok (atom, st.goTo behind))
    (hrepeat : Pattern.readRepetition atom behind = .ok (node, after)) :
    Pattern.readSequence (fuel + 1) done (st.goTo (c :: text))
      = Pattern.readSequence fuel (node :: done) (st.goTo after) := by
  rw [Pattern.readSequence]
  simp only [ReadState.goTo] at hatom ⊢
  split
  · next h => cases h
  · next h => cases h; exact absurd rfl hbar
  · next h => cases h; exact absurd rfl hclose
  · simp only [hatom, hrepeat]

/-- The first character that is written for one of an alias. -/
theorem exists_globText (c : Char) :
    ∃ d w, globText c = d :: w ∧ ∀ m ∈ quotedChars, m ≠ '\\' → m ≠ '.' → d ≠ m := by
  unfold globText runText
  split
  next => exact ⟨'.', [], rfl, fun m _ _ hm => hm.symm⟩
  split
  next => exact ⟨'.', ['*'], rfl, fun m _ _ hm => hm.symm⟩
  next =>
    obtain ⟨d, w, hw⟩ := List.exists_cons_of_ne_nil (quoteChar_ne_nil c)
    refine ⟨d, w, hw, fun m hm hslash _ hd => head?_quoteChar hm hslash c ?_⟩
    rw [hw, hd, List.head?_cons]

theorem noMark_globTexts (t : Text) : NoMark (t.flatMap globText ++ ['$']) := by
  cases t with
  | nil => simp [NoMark]
  | cons c t =>
      obtain ⟨d, w, hw, hd⟩ := exists_globText c
      rw [List.flatMap_cons, hw]
      rintro _ ⟨⟩ hmark
      have hquoted : ∀ m ∈ ['*', '+', '?', '{'], m ∈ quotedChars ∧ m ≠ '\\' ∧ m ≠ '.' :=
        forall_mem_of_all (by decide)
      obtain ⟨hm, hslash, hpoint⟩ := hquoted d hmark
      exact hd d hm hslash hpoint rfl

theorem readSequence_globText {rest : Text} (hrest : NoMark rest) (fuel : Nat) (done : List Node)
    (st : ReadState) (c : Char) :
    Pattern.readSequence (fuel + 2) done (st.goTo (globText c ++ rest))
      = Pattern.readSequence (fuel + 1) (globNode c :: done) (st.goTo rest) := by
  obtain ⟨d, w, hw, hd⟩ := exists_globText c
  have hbar : d ≠ '|' := hd _ (by decide) (by decide) (by decide)
  have hclose : d ≠ ')' := hd _ (by decide) (by decide) (by decide)
  have hatom : ∃ atom after, Pattern.readAtom (fuel + 1) (st.goTo (d :: (w ++ rest)))
      = .ok (atom, st.goTo after)
        ∧ Pattern.readRepetition atom after = .ok (globNode c, rest) := by
    rw [← List.cons_append, ← hw]
    unfold globText runText
    split
    next h =>
      subst h
      exact ⟨.anyChar, rest, rfl, readRepetition_of_noMark _ hrest⟩
    split
    next h =>
      subst h
      exact ⟨.anyChar, '*' :: rest, rfl, readRepetition_run hrest⟩
    next hone hrun =>
      have hnode : globNode c = .char c := by
        unfold globNode
        split
        · exact absurd rfl hrun
        · exact absurd rfl hone
        · rfl
      exact ⟨.char c, rest, readAtom_quoteChar fuel c rest st,
        hnode ▸ readRepetition_of_noMark _ hrest⟩
  obtain ⟨atom, after, hread, hrepeat⟩ := hatom
  rw [hw, List.cons_append]
  exact readSequence_atom hbar hclose hread hrepeat

theorem readSequence_globTexts (t : Text) {fuel : Nat} (hfuel : t.length + 3 ≤ fuel)
    (done : List Node) (st : ReadState) :
    Pattern.readSequence fuel done (st.goTo (t.flatMap globText ++ ['$']))
      = .ok (Node.ofList (done.reverse ++ (t.map globNode ++ [.place .lineEnd])), st.goTo []) := by
  induction t generalizing done fuel with
  | nil =>
      obtain ⟨more, rfl⟩ := Nat.exists_eq_add_of_le' hfuel
      have hread : Pattern.readSequence (more + 3) done (st.goTo ['$'])
          = Pattern.readSequence (more + 2) (.place .lineEnd :: done) (st.goTo []) :=
        readSequence_atom (by decide) (by decide) rfl rfl
      refine hread.trans ?_
      rw [Pattern.readSequence, List.reverse_cons]
      rfl
  | cons c t ih =>
      obtain ⟨more, rfl⟩ := Nat.exists_eq_add_of_le' hfuel
      have hread := readSequence_globText (noMark_globTexts t) (more + t.length + 2) done st c
      rw [List.length_cons, List.flatMap_cons, List.append_assoc]
      have hsum : more + (t.length + 1 + 3) = more + t.length + 2 + 2 := by omega
      rw [hsum, hread, ih (by omega), List.reverse_cons, List.append_assoc]
      rfl

theorem length_le_globTexts (t : Text) : t.length ≤ (t.flatMap globText).length := by
  induction t with
  | nil => exact Nat.le_refl 0
  | cons c t ih =>
      obtain ⟨d, w, hw, -⟩ := exists_globText c
      rw [List.flatMap_cons, hw, List.length_append, List.length_cons, List.length_cons]
      omega

/-- The written pattern of an alias is read as the nodes of its characters, between the start of the
text and the end of its line. -/
theorem ofText_globSource (alias_ : Text) :
    Pattern.ofText (globSource alias_) = .ok {
      source := globSource alias_
      node := Node.ofList (.place .start :: (Text.lower alias_).map globNode ++ [.place .lineEnd])
      names := [] } := by
  have hlen := length_le_globTexts (Text.lower alias_)
  have hfuel :
      4 * (globSource alias_).length + 4 = 4 * (globSource alias_).length + 2 + 1 + 1 := rfl
  have hread : Pattern.readSequence (4 * (globSource alias_).length + 2 + 1) []
      ⟨globSource alias_, 0, [], []⟩
      = .ok (Node.ofList (.place .start :: ((Text.lower alias_).map globNode ++ [.place .lineEnd])),
          ⟨[], 0, [], []⟩) := by
    have hlength :
        (globSource alias_).length = ((Text.lower alias_).flatMap globText).length + 2 := by
      rw [globSource_eq, List.length_cons, List.length_append, List.length_singleton]
    rw [show (⟨globSource alias_, 0, [], []⟩ : ReadState)
      = ReadState.goTo ⟨[], 0, [], []⟩ (globSource alias_) from rfl]
    rw [hlength, globSource_eq]
    refine (readSequence_atom (by decide) (by decide) rfl
      (readRepetition_of_noMark _ (noMark_globTexts _))).trans ?_
    exact readSequence_globTexts _ (by omega) [.place .start] _
  rw [Pattern.ofText, hfuel, Pattern.readAlternatives, hread]
  rfl

theorem globPattern_eq (alias_ : Text) :
    globPattern alias_ = {
      source := globSource alias_
      node := Node.ofList (.place .start :: (Text.lower alias_).map globNode ++ [.place .lineEnd])
      names := []
      ignoreCase := true } := by
  rw [globPattern, ofText_globSource]
  rfl

end BankStatement.Matching
