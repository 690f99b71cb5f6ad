import BankStatement.Text.CharClass

/-!
# Classes that exclude each other

The classes of characters are tables of ranges. Two of them exclude each other when no code point of
the ranges of the one lies in the other (`inRanges_eq_false_of_disjoint`), which is decided by going
through the smaller table. Blanks are no digits, letters or numbers.

Going through all characters would take too long, and going through two tables side by side would
need them to be sorted. The class of blanks has few code points, so looking each of them up in the
other table is enough; this is the one computation behind the lemmas of the module. What is needed
of a class elsewhere follows from them without the tables.
-/

namespace BankStatement

/-- What holds of each character of a text is decided by going through the text. -/
theorem forall_mem_of_all {p : Char → Prop} [DecidablePred p] {t : List Char}
    (h : t.all (fun c => decide (p c)) = true) : ∀ c ∈ t, p c := by
  simpa using h

theorem exists_range_of_inRanges {ranges : List (Nat × Nat)} {n : Nat}
    (h : inRanges ranges n = true) : ∃ r ∈ ranges, r.1 ≤ n ∧ n ≤ r.2 := by
  induction ranges with
  | nil => cases h
  | cons r rest ih =>
      rw [inRanges] at h
      split at h
      · cases h
      · split at h
        · exact ⟨r, List.mem_cons_self, by omega, by omega⟩
        · obtain ⟨r', hr', hle⟩ := ih h
          exact ⟨r', List.mem_cons_of_mem r hr', hle⟩

/-- What is decided for the code points of some ranges holds of the characters of the class, so a
table can stand for its characters. -/
theorem forall_of_inRanges {p : Char → Prop} {ranges : List (Nat × Nat)}
    (h : ∀ r ∈ ranges, ∀ n ∈ List.range' r.1 (r.2 + 1 - r.1), p (Char.ofNat n)) {c : Char}
    (hc : inRanges ranges c.toNat = true) : p c := by
  obtain ⟨r, hr, hlow, hhigh⟩ := exists_range_of_inRanges hc
  have hone := h r hr c.toNat (List.mem_range'_1.mpr ⟨hlow, by omega⟩)
  rwa [Char.ofNat_toNat] at hone

/-- Whether no code point of some ranges lies in others. -/
def rangesDisjoint (small large : List (Nat × Nat)) : Bool :=
  small.all fun r => (List.range' r.1 (r.2 + 1 - r.1)).all fun n => !inRanges large n

theorem inRanges_eq_false_of_disjoint {small large : List (Nat × Nat)} {n : Nat}
    (h : rangesDisjoint small large = true) (hn : inRanges small n = true) :
    inRanges large n = false := by
  obtain ⟨r, hr, hlow, hhigh⟩ := exists_range_of_inRanges hn
  have hall := List.all_eq_true.mp (List.all_eq_true.mp h r hr)
  simpa using hall n (List.mem_range'_1.mpr ⟨hlow, by omega⟩)

theorem isDecimalDigit_of_isBlank {c : Char} (h : isBlank c = true) : isDecimalDigit c = false :=
  inRanges_eq_false_of_disjoint (by decide +kernel) h

theorem isAlphanumeric_of_isBlank {c : Char} (h : isBlank c = true) : isAlphanumeric c = false :=
  inRanges_eq_false_of_disjoint (by decide +kernel) h

theorem isBlank_of_isDecimalDigit {c : Char} (h : isDecimalDigit c = true) : isBlank c = false := by
  cases hb : isBlank c with
  | false => rfl
  | true => rw [isDecimalDigit_of_isBlank hb] at h; cases h

/-- A character of a class is another one than a character outside of it. -/
theorem ne_of_class {p : Char → Bool} {c d : Char} (hc : p c = true) (hd : p d = false) :
    c ≠ d := by
  rintro rfl
  rw [hd] at hc
  cases hc

end BankStatement
