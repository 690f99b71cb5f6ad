import BankStatement.Proofs.Text.Trimming

/-!
# Replacing within words

Replacing goes through a text from left to right: what is searched is written anew where the text
begins with it (`replace_search_append`), else the first character is kept
(`replace_cons_of_not_prefix`). What is searched goes past no character that it does not hold, so a
blank parts the text into words that are replaced on their own (`replace_append_cons`). What is
written instead decides how the words begin and end: trimmed words stay trimmed (`trimmed_replace`),
and none of them vanishes (`replace_ne_nil`).

The definition splits the text at what is searched and joins the pieces, counting how many
characters of an occurrence are still to be passed. The first two lemmas are the equations that a
recursion on the text would have, and they are what the other ones are proved with, except where
that count is in the way and a statement for every count is needed (`joinWith_splitAfter_append`).

An empty search is left out throughout. It is found in front of every character and at the end.
-/

namespace BankStatement.Text

variable {d : Char} {search t : Text}

/-- A search cannot reach over a character that it does not hold. -/
theorem isPrefixOf_append_cons (h : d ∉ search) (t u : Text) :
    search.isPrefixOf (t ++ d :: u) = search.isPrefixOf t := by
  rw [Bool.eq_iff_iff, List.isPrefixOf_iff_prefix, List.isPrefixOf_iff_prefix,
    prefix_append_cons_iff h]

theorem joinWith_splitAfter_append (hne : search ≠ []) (h : d ∉ search) (replacement : Text)
    {skip : Nat} {t : Text} (hskip : skip ≤ t.length) (u : Text) :
    joinWith replacement (splitAfter search skip (t ++ d :: u))
      = joinWith replacement (splitAfter search skip t)
        ++ d :: joinWith replacement (splitAfter search 0 u) := by
  fun_induction splitAfter search skip t with
  | case1 skip =>
      obtain rfl : skip = 0 := Nat.le_zero.mp hskip
      have hno : search.isPrefixOf (d :: u) = false := by
        rw [← List.nil_append (d :: u), isPrefixOf_append_cons h, Bool.eq_false_iff, ne_eq,
          List.isPrefixOf_iff_prefix, List.prefix_nil]
        exact hne
      rw [List.nil_append, splitAfter, hno, if_neg Bool.false_ne_true,
        joinWith_consHead _ _ (splitAfter_ne_nil _ _ _)]
      simp [joinWith]
  | case2 skip _ rest ih =>
      rw [List.cons_append, splitAfter]
      exact ih (Nat.le_of_succ_le_succ hskip)
  | case3 c rest hfound ih =>
      have hlen : search.length ≤ rest.length + 1 :=
        (List.isPrefixOf_iff_prefix.mp hfound).length_le
      have hfound' : search.isPrefixOf (c :: (rest ++ d :: u)) = true := by
        rwa [← List.cons_append, isPrefixOf_append_cons h]
      rw [List.cons_append, splitAfter, if_pos hfound',
        joinWith_cons _ _ (splitAfter_ne_nil _ _ _), joinWith_cons _ _ (splitAfter_ne_nil _ _ _),
        ih (by omega)]
      simp only [List.append_assoc]
  | case4 c rest hno ih =>
      have hno' : search.isPrefixOf (c :: (rest ++ d :: u)) ≠ true := by
        rwa [← List.cons_append, isPrefixOf_append_cons h]
      rw [List.cons_append, splitAfter, if_neg hno',
        joinWith_consHead _ _ (splitAfter_ne_nil _ _ _),
        joinWith_consHead _ _ (splitAfter_ne_nil _ _ _), ih (Nat.zero_le _), List.cons_append]

theorem replace_of_ne_nil (hne : search ≠ []) (replacement t : Text) :
    replace search replacement t = joinWith replacement (splitAfter search 0 t) := by
  rw [replace, if_neg (by simpa using hne)]
  rfl

theorem splitAfter_append (separator s t : Text) :
    splitAfter separator s.length (s ++ t) = splitAfter separator 0 t := by
  induction s with
  | nil => rfl
  | cons c s ih => exact ih

/-- What is searched is replaced where the text begins with it. -/
theorem replace_search_append (hne : search ≠ []) (replacement t : Text) :
    replace search replacement (search ++ t) = replacement ++ replace search replacement t := by
  obtain ⟨c, s, rfl⟩ := List.exists_cons_of_ne_nil hne
  have hfound : (c :: s).isPrefixOf (c :: (s ++ t)) = true :=
    List.isPrefixOf_iff_prefix.mpr (List.prefix_append (c :: s) t)
  have hrest : splitAfter (c :: s) ((c :: s).length - 1) (s ++ t) = splitAfter (c :: s) 0 t :=
    splitAfter_append _ s t
  rw [replace_of_ne_nil hne, replace_of_ne_nil hne, List.cons_append, splitAfter, if_pos hfound,
    hrest, joinWith_cons _ _ (splitAfter_ne_nil _ _ _), List.nil_append]

/-- A character is kept where the text does not begin with what is searched. -/
theorem replace_cons_of_not_prefix (hne : search ≠ []) {c : Char} {t : Text}
    (h : search.isPrefixOf (c :: t) = false) (replacement : Text) :
    replace search replacement (c :: t) = c :: replace search replacement t := by
  rw [replace_of_ne_nil hne, replace_of_ne_nil hne, splitAfter, h, if_neg Bool.false_ne_true,
    joinWith_consHead _ _ (splitAfter_ne_nil _ _ _)]

/-- A character that is not searched parts the text into pieces that are replaced on their own. -/
theorem replace_append_cons (hne : search ≠ []) (h : d ∉ search) (replacement t u : Text) :
    replace search replacement (t ++ d :: u)
      = replace search replacement t ++ d :: replace search replacement u := by
  simp only [replace_of_ne_nil hne]
  exact joinWith_splitAfter_append hne h replacement (Nat.zero_le _) u

/-- A text begins with its own character or with a replacement. -/
theorem replace_cons (hne : search ≠ []) (replacement : Text) (c : Char) (t : Text) :
    (∃ rest, replace search replacement (c :: t) = replacement ++ rest)
      ∨ replace search replacement (c :: t) = c :: replace search replacement t := by
  simp only [replace_of_ne_nil hne, splitAfter]
  split
  · rw [joinWith_cons _ _ (splitAfter_ne_nil _ _ _)]
    exact .inl ⟨_, rfl⟩
  · exact .inr (joinWith_consHead _ _ (splitAfter_ne_nil _ _ _))

theorem replace_ne_nil (hne : search ≠ []) {replacement : Text} (hr : replacement ≠ [])
    (ht : t ≠ []) : replace search replacement t ≠ [] := by
  obtain ⟨c, t, rfl⟩ := List.exists_cons_of_ne_nil ht
  rcases replace_cons hne replacement c t with ⟨rest, hrest⟩ | hrest
  · rw [hrest]
    exact List.append_ne_nil_of_left_ne_nil hr rest
  · rw [hrest]
    exact List.cons_ne_nil _ _

theorem getLast_joinWith_splitAfter {p : Char → Prop} (hne : search ≠ []) {replacement : Text}
    (hr : replacement ≠ []) (hlast : ∀ c ∈ replacement.getLast?, p c) {skip : Nat} {t : Text}
    (ht : ∀ c ∈ t.getLast?, p c) :
    ∀ c ∈ (joinWith replacement (splitAfter search skip t)).getLast?, p c := by
  fun_induction splitAfter search skip t with
  | case1 => simp [joinWith]
  | case2 skip d rest ih =>
      exact ih fun c hc => ht c (by rw [List.getLast?_cons, hc]; rfl)
  | case3 d rest _ ih =>
      have hrest := ih fun c hc => ht c (by rw [List.getLast?_cons, hc]; rfl)
      rw [joinWith_cons _ _ (splitAfter_ne_nil _ _ _), List.nil_append]
      intro c hc
      rw [List.getLast?_append, Option.mem_def, Option.or_eq_some_iff] at hc
      rcases hc with hc | ⟨-, hc⟩
      · exact hrest c hc
      · exact hlast c hc
  | case4 d rest _ ih =>
      have hrest := ih fun c hc => ht c (by rw [List.getLast?_cons, hc]; rfl)
      rw [joinWith_consHead _ _ (splitAfter_ne_nil _ _ _)]
      intro c hc
      rw [List.getLast?_cons, Option.mem_def, Option.some_inj] at hc
      cases hend : (joinWith replacement (splitAfter search 0 rest)).getLast? with
      | some e =>
          rw [hend] at hc
          exact hrest c (hend.trans (congrArg some hc))
      | none =>
          -- nothing stands behind the character, so it is the last of the text
          have hnil : rest = [] := by
            by_contra hrest'
            have hsome := replace_ne_nil hne hr hrest'
            rw [replace_of_ne_nil hne] at hsome
            exact hsome (List.getLast?_eq_none_iff.mp hend)
          rw [hend] at hc
          exact ht c (by rw [hnil]; exact congrArg some hc)

/-- A trimmed text stays trimmed when trimmed texts are written into it. -/
theorem trimmed_replace (hne : search ≠ []) {replacement : Text} (hr : Trimmed replacement)
    (hr' : replacement ≠ []) (ht : Trimmed t) : Trimmed (replace search replacement t) := by
  constructor
  · cases t with
    | nil => rw [replace_of_ne_nil hne]; simp [splitAfter, joinWith]
    | cons c t =>
        rcases replace_cons hne replacement c t with ⟨rest, hrest⟩ | hrest
        · rw [hrest]
          obtain ⟨d, replacement, rfl⟩ := List.exists_cons_of_ne_nil hr'
          exact hr.1
        · rw [hrest]
          exact ht.1
  · rw [replace_of_ne_nil hne]
    exact getLast_joinWith_splitAfter hne hr' hr.2 ht.2

end BankStatement.Text
