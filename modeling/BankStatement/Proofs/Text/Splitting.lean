import BankStatement.Text.Basic

/-!
# Splitting at one character

At a separator of one character the splitting of texts is that of lists (`splitOn_cons`), so parts
without the separator come back from their joined text (`splitOn_joinWith`). Replacing one character
goes through the text character by character (`replace_singleton`). The lines of a text come back
whether they were joined by line feeds or by carriage returns and line feeds (`lines_joinWith`).

Splitting at longer separators has to pass over the rest of an occurrence, and there is no equation
for it as simple as this one; what is needed of it is in `Proofs.Text.Replacing`. The files that are
read have a separator of one character, and so do the amounts, whose marks are single characters.

A line is a text without the characters that end one, in all their forms (`IsLine`). Before a text
is split into lines its line ends are made one, and the only place where two texts could interact
there is a carriage return at the end of one and a line feed at the beginning of the next.
-/

namespace BankStatement.Text

theorem splitOn_cons (c d : Char) (t : Text) :
    splitOn [c] (d :: t) = if c = d then [] :: splitOn [c] t else consHead d (splitOn [c] t) := by
  simp only [splitOn, splitAfter, List.isPrefixOf, Bool.and_true, beq_iff_eq, List.length_singleton,
    Nat.sub_self]

theorem splitOn_of_not_mem {c : Char} {separator t : Text} (h : c ∉ t) :
    splitOn (c :: separator) t = [t] := by
  induction t with
  | nil => rfl
  | cons d t ih =>
      obtain ⟨hd, ht⟩ := List.ne_and_not_mem_of_not_mem_cons h
      have hno : (c :: separator).isPrefixOf (d :: t) = false := by
        rw [List.isPrefixOf, beq_false_of_ne hd, Bool.false_and]
      have hrest : splitAfter (c :: separator) 0 t = [t] := ih ht
      rw [splitOn, splitAfter, hno, if_neg Bool.false_ne_true, hrest, consHead]

/-- Replacing one character goes through the text character by character. -/
theorem replace_singleton (c : Char) (replacement t : Text) :
    replace [c] replacement t = t.flatMap fun d => if c = d then replacement else [d] := by
  show joinWith replacement (splitOn [c] t) = _
  induction t with
  | nil => rfl
  | cons d t ih =>
      rw [splitOn_cons, List.flatMap_cons, ← ih]
      split
      · rw [joinWith_cons replacement [] (splitOn_ne_nil [c] t), List.nil_append]
      · rw [joinWith_consHead replacement d (splitOn_ne_nil [c] t)]
        rfl

/-- Nothing is replaced where the first character of what is searched does not occur. -/
theorem replace_of_notMem {c : Char} {search t : Text} (h : c ∉ t) (replacement : Text) :
    replace (c :: search) replacement t = t := by
  show joinWith replacement (splitOn (c :: search) t) = t
  rw [splitOn_of_not_mem h, joinWith, List.intercalate_singleton]

theorem replace_append (c : Char) (replacement s t : Text) :
    replace [c] replacement (s ++ t) = replace [c] replacement s ++ replace [c] replacement t := by
  simp only [replace_singleton, List.flatMap_append]

theorem replace_cons_self (c : Char) (replacement t : Text) :
    replace [c] replacement (c :: t) = replacement ++ replace [c] replacement t := by
  simp only [replace_singleton, List.flatMap_cons, if_true]

/-- Replacing one character by nothing leaves it out. -/
theorem replace_nil (c : Char) (t : Text) : replace [c] [] t = erase c t := by
  rw [replace_singleton]
  induction t with
  | nil => rfl
  | cons d t ih =>
      rw [List.flatMap_cons, ih, erase, erase, List.filter_cons]
      by_cases h : c = d
      · simp [h]
      · simp [h, Ne.symm h]

theorem replace_char (c d : Char) (t : Text) :
    replace [c] [d] t = t.map fun e => if c = e then d else e := by
  rw [replace_singleton, List.map_eq_flatMap]
  congr 1
  funext e
  split <;> rfl

theorem erase_of_notMem {c : Char} {t : Text} (h : c ∉ t) : erase c t = t := by
  rw [erase, List.filter_eq_self]
  intro d hd
  simpa using ne_of_mem_of_not_mem hd h

theorem splitOn_append {c : Char} {t : Text} (h : c ∉ t) (u : Text) :
    splitOn [c] (t ++ c :: u) = t :: splitOn [c] u := by
  induction t with
  | nil => rw [List.nil_append, splitOn_cons, if_pos rfl]
  | cons d t ih =>
      obtain ⟨hd, ht⟩ := List.ne_and_not_mem_of_not_mem_cons h
      rw [List.cons_append, splitOn_cons, if_neg hd, ih ht]
      rfl

/-- Parts without the separator come back from their joined text. -/
theorem splitOn_joinWith {c : Char} {parts : List Text} (hne : parts ≠ [])
    (h : ∀ part ∈ parts, c ∉ part) : splitOn [c] (joinWith [c] parts) = parts := by
  induction parts with
  | nil => exact absurd rfl hne
  | cons part parts ih =>
      obtain ⟨hpart, hparts⟩ := List.forall_mem_cons.mp h
      cases parts with
      | nil => simpa [joinWith] using splitOn_of_not_mem hpart
      | cons next parts =>
          rw [joinWith_cons [c] part (List.cons_ne_nil next parts), List.append_assoc,
            List.singleton_append, splitOn_append hpart, ih (List.cons_ne_nil next parts) hparts]

/-- There is one part more than separators. -/
theorem length_splitOn (c : Char) (t : Text) : (splitOn [c] t).length = t.count c + 1 := by
  induction t with
  | nil => rfl
  | cons d t ih =>
      rw [splitOn_cons]
      split
      next h => rw [List.length_cons, ih, h, List.count_cons_self]
      next h =>
        rw [List.count_cons_of_ne (Ne.symm h), ← ih]
        cases hparts : splitOn [c] t with
        | nil => exact absurd hparts (splitOn_ne_nil [c] t)
        | cons => rfl

theorem not_mem_of_mem_splitOn {c : Char} {t part : Text} (h : part ∈ splitOn [c] t) :
    c ∉ part := by
  induction t generalizing part with
  | nil => rw [List.mem_singleton.mp h]; exact List.not_mem_nil
  | cons d t ih =>
      rw [splitOn_cons] at h
      split at h
      next =>
        rcases List.mem_cons.mp h with rfl | h
        · exact List.not_mem_nil
        · exact ih h
      next hd =>
        cases hparts : splitOn [c] t with
        | nil => exact absurd hparts (splitOn_ne_nil [c] t)
        | cons first others =>
            rw [hparts] at h ih
            rcases List.mem_cons.mp h with rfl | h
            · have hfirst : c ∉ first := ih List.mem_cons_self
              simp [hd, hfirst]
            · exact ih (List.mem_cons_of_mem _ h)

/-- A separator parts what is in front of it from what is behind it. -/
theorem splitOn_append_cons (c : Char) (t u : Text) :
    splitOn [c] (t ++ c :: u) = splitOn [c] t ++ splitOn [c] u := by
  induction t with
  | nil => rw [List.nil_append, splitOn_cons, if_pos rfl]; rfl
  | cons d t ih =>
      rw [List.cons_append, splitOn_cons, splitOn_cons, ih]
      split
      · rfl
      · cases hparts : splitOn [c] t with
        | nil => exact absurd hparts (splitOn_ne_nil [c] t)
        | cons => rfl

theorem joinWith_append (separator : Text) {parts others : List Text} (hparts : parts ≠ [])
    (hothers : others ≠ []) :
    joinWith separator (parts ++ others)
      = joinWith separator parts ++ separator ++ joinWith separator others := by
  induction parts with
  | nil => exact absurd rfl hparts
  | cons part parts ih =>
      cases parts with
      | nil => rw [List.singleton_append, joinWith_cons _ _ hothers]; simp [joinWith]
      | cons next parts =>
          rw [List.cons_append, joinWith_cons _ _ (by simp), ih (List.cons_ne_nil next parts),
            joinWith_cons _ _ (List.cons_ne_nil next parts)]
          simp only [List.append_assoc]

/-- Every part stands in the joined text. -/
theorem infix_joinWith {separator part : Text} {parts : List Text} (h : part ∈ parts) :
    part <:+: joinWith separator parts := by
  induction parts with
  | nil => cases h
  | cons first parts ih =>
      cases parts with
      | nil =>
          obtain rfl := List.mem_singleton.mp h
          exact ⟨[], [], by simp [joinWith]⟩
      | cons next parts =>
          rw [joinWith_cons separator first (List.cons_ne_nil next parts), List.append_assoc]
          rcases List.mem_cons.mp h with rfl | hrest
          · exact (List.prefix_append part _).isInfix
          · rw [← List.append_assoc]
            exact (ih hrest).trans (List.suffix_append _ _).isInfix

/-! ## Lines -/

/-- A line: a text without the characters that end one. -/
def IsLine (t : Text) : Prop := '\r' ∉ t ∧ '\n' ∉ t

instance (t : Text) : Decidable (IsLine t) :=
  inferInstanceAs (Decidable ('\r' ∉ t ∧ '\n' ∉ t))

inductive Newline where
  | lineFeed
  | carriageReturn
  | both
  deriving DecidableEq, Repr

def Newline.text : Newline → Text
  | .lineFeed => ['\n']
  | .carriageReturn => ['\r']
  | .both => ['\r', '\n']

theorem normalizeNewlines_append {t : Text} (h : IsLine t) (u : Text) :
    normalizeNewlines (t ++ u) = t ++ normalizeNewlines u := by
  induction t with
  | nil => rfl
  | cons c t ih =>
      obtain ⟨hc, ht⟩ := List.ne_and_not_mem_of_not_mem_cons h.1
      have hstep : normalizeNewlines (c :: (t ++ u)) = c :: normalizeNewlines (t ++ u) := by
        simp [normalizeNewlines, Ne.symm hc]
      rw [List.cons_append, hstep, ih ⟨ht, fun hn => h.2 (List.mem_cons_of_mem c hn)⟩]
      rfl

theorem normalizeNewlines_newline (newline : Newline) {t : Text}
    (h : newline = .carriageReturn → t.head? ≠ some '\n') :
    normalizeNewlines (newline.text ++ t) = '\n' :: normalizeNewlines t := by
  cases newline with
  | lineFeed => simp [Newline.text, normalizeNewlines]
  | both => rfl
  | carriageReturn =>
      cases t with
      | nil => rfl
      | cons c t =>
          have hc : c ≠ '\n' := fun hc => h rfl (congrArg some hc)
          simp [Newline.text, normalizeNewlines, hc]

/-- Joined parts start as the first one does, or with the separator. -/
theorem head?_joinWith {separator part : Text} {parts : List Text} {c : Char}
    (hne : separator ≠ []) (h : (joinWith separator (part :: parts)).head? = some c) :
    part.head? = some c ∨ separator.head? = some c := by
  cases parts with
  | nil => exact .inl (by simpa [joinWith] using h)
  | cons next parts =>
      obtain ⟨d, separator, rfl⟩ := List.exists_cons_of_ne_nil hne
      rw [joinWith_cons _ part (List.cons_ne_nil next parts), List.append_assoc, List.head?_append,
        Option.or_eq_some_iff] at h
      exact h.imp_right And.right

/-- Behind a carriage return that ends a line there is no line feed. -/
theorem head?_joinWith_carriageReturn {ls : List Text} (h : ∀ l ∈ ls, IsLine l) :
    (joinWith Newline.carriageReturn.text ls).head? ≠ some '\n' := by
  intro hhead
  cases ls with
  | nil => cases hhead
  | cons l ls =>
      rcases head?_joinWith (by decide) hhead with hl | hreturn
      · exact (h l List.mem_cons_self).2 (List.mem_of_mem_head? hl)
      · exact absurd hreturn (by decide)

theorem normalizeNewlines_joinWith (newline : Newline) {ls : List Text} (h : ∀ l ∈ ls, IsLine l) :
    normalizeNewlines (joinWith newline.text ls) = joinWith ['\n'] ls := by
  induction ls with
  | nil => rfl
  | cons l ls ih =>
      obtain ⟨hl, hls⟩ := List.forall_mem_cons.mp h
      cases ls with
      | nil => simpa [joinWith, normalizeNewlines] using normalizeNewlines_append hl []
      | cons m ls =>
          have hne : m :: ls ≠ [] := List.cons_ne_nil m ls
          rw [joinWith_cons _ l hne, joinWith_cons _ l hne, List.append_assoc,
            normalizeNewlines_append hl, normalizeNewlines_newline, ih hls, List.append_assoc]
          · rfl
          · rintro rfl
            exact head?_joinWith_carriageReturn hls

/-- Lines come back from their joined text. -/
theorem lines_joinWith (newline : Newline) {ls : List Text} (hne : ls ≠ [])
    (h : ∀ l ∈ ls, IsLine l) : lines (joinWith newline.text ls) = ls := by
  rw [lines, normalizeNewlines_joinWith newline h, splitOn_joinWith hne fun l hl => (h l hl).2]

end BankStatement.Text
