import BankStatement.Decimal.Notation
import BankStatement.Proofs.Text.Classes
import BankStatement.Proofs.Text.Splitting
import BankStatement.Proofs.Text.Trimming
import BankStatement.Proofs.Text.Written

/-!
# Digits and a point

Of a text of digits and points, reading takes the digits in front of the first point and those
behind it (`ofText?_of_plain`), so it reads the text exactly if that is a numeral: decimal digits,
at least one, and at most one point (`ofText?_isSome_iff`). A digit may be no decimal one, such as a
superscript, and then has no place value.

These are the texts that are left of an amount when signs, blanks and the marks of thousands have
been taken out and the decimal mark has become a point. Exponents and words such as infinity cannot
occur in them, so of the notation of decimal numbers only this part is described here. The notation
of a language enters by one lemma, that a numeral stays one when its mark becomes a point
(`isNumeral_pointed`).

Two ways of writing make the same number: a point with no digits behind it is allowed, and so is one
with none in front. `beforePoint` and `behindPoint` split a text at its first point whether or not
it has one, so that all of them are one case.
-/

namespace BankStatement

open Text (Digits digitsValue? digits_append)

/-- Decimal digits, at least one, and at most one decimal mark. -/
structure IsNumeral (mark : Char) (t : Text) : Prop where
  chars : ∀ c ∈ t, isDecimalDigit c = true ∨ c = mark
  one_mark : t.count mark ≤ 1
  exists_digit : ∃ c ∈ t, isDecimalDigit c = true

theorem isNumeral_iff {mark : Char} {t : Text} :
    IsNumeral mark t ↔ t.all (fun c => isDecimalDigit c || c == mark) = true
      ∧ t.count mark ≤ 1 ∧ t.any isDecimalDigit = true := by
  rw [List.all_eq_true, List.any_eq_true]
  simp only [Bool.or_eq_true, beq_iff_eq]
  exact ⟨fun ⟨hchars, hone, hdigit⟩ => ⟨hchars, hone, hdigit⟩,
    fun ⟨hchars, hone, hdigit⟩ => ⟨hchars, hone, hdigit⟩⟩

instance (mark : Char) (t : Text) : Decidable (IsNumeral mark t) :=
  decidable_of_iff _ isNumeral_iff.symm

/-- A numeral stays one when its mark becomes a point, provided that it has no points already; these
would have been taken out as marks of thousands. -/
theorem isNumeral_pointed {mark : Char} {t : Text} (hmark : isDecimalDigit mark = false)
    (h : '.' ∉ t) :
    IsNumeral '.' (t.map fun c => if mark = c then '.' else c) ↔ IsNumeral mark t := by
  have hpoint : isDecimalDigit '.' = false := by decide
  have hdigit {c : Char} : isDecimalDigit (if mark = c then '.' else c) = isDecimalDigit c := by
    split
    next heq => rw [hpoint, ← heq, hmark]
    next => rfl
  have hsame {c : Char} (hc : c ∈ t) : (if mark = c then '.' else c) = '.' ↔ c = mark := by
    split
    next heq => simp [heq]
    next hne => exact iff_of_false (ne_of_mem_of_not_mem hc h) (Ne.symm hne)
  have hcount : (t.map fun c => if mark = c then '.' else c).count '.' = t.count mark := by
    rw [List.count, List.countP_map, List.count]
    refine List.countP_congr fun c hc => ?_
    simpa using hsame hc
  constructor
  · rintro ⟨hchars, hone, hexists⟩
    refine ⟨fun c hc => ?_, hcount ▸ hone, ?_⟩
    · have himage := hchars _ (List.mem_map_of_mem hc)
      rwa [hdigit, hsame hc] at himage
    · obtain ⟨d, hd, hdec⟩ := hexists
      obtain ⟨c, hc, rfl⟩ := List.mem_map.mp hd
      exact ⟨c, hc, hdigit.symm.trans hdec⟩
  · rintro ⟨hchars, hone, ⟨c, hc, hdec⟩⟩
    refine ⟨fun d hd => ?_, hcount ▸ hone, ⟨_, List.mem_map_of_mem hc, hdigit.trans hdec⟩⟩
    obtain ⟨e, he, rfl⟩ := List.mem_map.mp hd
    rw [hdigit, hsame he]
    exact hchars e he

/-- Digits of any kind and points. -/
def IsPlain (t : Text) : Prop := ∀ c ∈ t, isAnyDigit c = true ∨ c = '.'

theorem isAnyDigit_of_isDecimalDigit {c : Char} (h : isDecimalDigit c = true) :
    isAnyDigit c = true := by
  rw [isAnyDigit, h, Bool.true_or]

theorem isBlank_of_isAnyDigit {c : Char} (h : isAnyDigit c = true) : isBlank c = false := by
  cases hblank : isBlank c with
  | false => rfl
  | true =>
      have hdecimal := isDecimalDigit_of_isBlank hblank
      have hother : inRanges Text.Table.otherDigit c.toNat = false :=
        inRanges_eq_false_of_disjoint (by decide +kernel) hblank
      rw [isAnyDigit, hdecimal, hother] at h
      cases h

theorem Text.digits_of_digitsValue? {t : Text} {n : Nat} (h : digitsValue? t = some n) :
    Digits t := by
  induction t using List.reverseRecOn generalizing n with
  | nil => exact List.forall_mem_nil _
  | append_singleton t c ih =>
      rw [digitsValue_append] at h
      obtain ⟨m, hm, hc⟩ := Option.bind_eq_some_iff.mp h
      obtain ⟨d, hd, -⟩ := Option.map_eq_some_iff.mp hc
      refine digits_append.mpr ⟨ih hm, fun e he => ?_⟩
      rw [List.mem_singleton.mp he, ← digitValue?_isSome, hd]
      rfl

theorem isPlain_digits {t : Text} (h : Digits t) : IsPlain t :=
  fun c hc => .inl (isAnyDigit_of_isDecimalDigit (h c hc))

theorem isPlain_point {whole fraction : Text} (h : Digits (whole ++ fraction)) :
    IsPlain (whole ++ '.' :: fraction) := by
  intro c hc
  rw [List.mem_append, List.mem_cons, or_left_comm, ← List.mem_append] at hc
  exact hc.symm.imp_left fun hc => isAnyDigit_of_isDecimalDigit (h c hc)

/-! ## Around the first point -/

namespace Text

def beforePoint (t : Text) : Text := t.takeWhile (· != '.')

def behindPoint (t : Text) : Text := (t.dropWhile (· != '.')).drop 1

theorem notMem_beforePoint (t : Text) : '.' ∉ t.beforePoint := by
  intro h
  simpa using List.mem_takeWhile_imp h

/-- A text is all in front of its first point, or it has one. -/
theorem point_cases (t : Text) :
    (t.beforePoint = t ∧ t.behindPoint = [] ∧ '.' ∉ t)
      ∨ t = t.beforePoint ++ '.' :: t.behindPoint := by
  have hsplit : t.beforePoint ++ t.dropWhile (· != '.') = t := List.takeWhile_append_dropWhile
  cases hrest : t.dropWhile (· != '.') with
  | nil =>
      left
      rw [hrest, List.append_nil] at hsplit
      refine ⟨hsplit, by rw [behindPoint, hrest]; rfl, ?_⟩
      have hno := notMem_beforePoint t
      rwa [hsplit] at hno
  | cons c rest =>
      right
      have hc : (c != '.') = false := head_dropWhile _ t c (by rw [hrest]; rfl)
      have hpoint : c = '.' := by simpa using hc
      rw [behindPoint, hrest, List.drop_one, List.tail_cons, ← hpoint, ← hrest, hsplit]

theorem point_append {whole : Text} (h : '.' ∉ whole) (fraction : Text) :
    beforePoint (whole ++ '.' :: fraction) = whole
      ∧ behindPoint (whole ++ '.' :: fraction) = fraction := by
  have hall : ∀ c ∈ whole, (c != '.') = true := by
    intro c hc
    simpa using ne_of_mem_of_not_mem hc h
  have hhead : ∀ c ∈ ('.' :: fraction).head?, (c != '.') = false := by simp
  constructor
  · exact takeWhile_of_all hall hhead
  · rw [behindPoint, dropWhile_of_all hall hhead]
    rfl

theorem point_of_notMem {t : Text} (h : '.' ∉ t) : t.beforePoint = t ∧ t.behindPoint = [] := by
  rcases t.point_cases with ⟨hbefore, hbehind, -⟩ | hsplit
  · exact ⟨hbefore, hbehind⟩
  · refine absurd ?_ h
    rw [hsplit]
    exact List.mem_append_right _ List.mem_cons_self

end Text

/-! ## Reading -/

namespace Decimal

/-- Digits and points are read as the number that the digits around the first point make. What
follows a second point makes the digits behind the first one no digits, and then nothing is read. -/
theorem ofText?_of_plain {t : Text} (h : IsPlain t) :
    ofText? t =
      if t.beforePoint ++ t.behindPoint = [] then none
      else (digitsValue? (t.beforePoint ++ t.behindPoint)).map
        (⟨false, ·, -t.behindPoint.length⟩) := by
  have hne {c : Char} (hc : isAnyDigit c = false) (hpoint : c ≠ '.') : c ∉ t := by
    intro hmem
    rcases h c hmem with hdigit | heq
    · rw [hc] at hdigit
      cases hdigit
    · exact hpoint heq
  have hstrip : Text.strip t = t := by
    refine Text.strip_of_trimmed (Text.trimmed_of_no_blank fun c hc => ?_)
    rcases h c hc with hdigit | rfl
    · exact isBlank_of_isAnyDigit hdigit
    · decide
  have herase : Text.erase '_' t = t := Text.erase_of_notMem (hne (by decide) (by decide))
  have hsign : takeSign t = (false, t) := by
    unfold takeSign
    split
    next => exact absurd List.mem_cons_self (hne (by decide) (by decide))
    next => exact absurd List.mem_cons_self (hne (by decide) (by decide))
    next => rfl
  have hmark : ∀ c ∈ t, (!(c == 'E' || c == 'e')) = true := by
    intro c hc
    have hE : c ≠ 'E' := ne_of_mem_of_not_mem hc (hne (by decide) (by decide))
    have he : c ≠ 'e' := ne_of_mem_of_not_mem hc (hne (by decide) (by decide))
    simp [hE, he]
  have hmantissa : t.takeWhile (fun c => !(c == 'E' || c == 'e')) = t :=
    List.takeWhile_eq_self_iff.mpr hmark
  have hpower : t.dropWhile (fun c => !(c == 'E' || c == 'e')) = [] :=
    List.dropWhile_eq_nil_iff.mpr hmark
  have hread : ofText? t = if (t.beforePoint.isEmpty && t.behindPoint.isEmpty) = true then none
      else (digitsValue? (t.beforePoint ++ t.behindPoint)).bind fun coefficient =>
        some (Decimal.mk false coefficient (0 - t.behindPoint.length)) := by
    simp only [ofText?, hstrip, herase, hsign, hmantissa, hpower]
    rfl
  rw [hread]
  by_cases hnil : t.beforePoint ++ t.behindPoint = []
  · rw [List.append_eq_nil_iff] at hnil
    simp [hnil]
  · have hfilled : (t.beforePoint.isEmpty && t.behindPoint.isEmpty) = false := by
      rw [Bool.eq_false_iff]
      simpa using hnil
    rw [hfilled, if_neg Bool.false_ne_true, if_neg hnil]
    simp only [Int.zero_sub]
    cases digitsValue? (t.beforePoint ++ t.behindPoint) <;> rfl

theorem isNumeral_iff_digits {t : Text} (h : IsPlain t) :
    IsNumeral '.' t ↔ t.beforePoint ++ t.behindPoint ≠ []
      ∧ Digits (t.beforePoint ++ t.behindPoint) := by
  have hsame : isDecimalDigit '.' = false := by decide
  rcases t.point_cases with ⟨hbefore, hbehind, hno⟩ | hsplit
  · rw [hbefore, hbehind, List.append_nil]
    constructor
    · rintro ⟨hchars, -, ⟨c, hc, -⟩⟩
      refine ⟨List.ne_nil_of_mem hc, fun c hc => ?_⟩
      exact (hchars c hc).resolve_right (ne_of_mem_of_not_mem hc hno)
    · rintro ⟨hne, hdigits⟩
      refine ⟨fun c hc => .inl (hdigits c hc), ?_, ?_⟩
      · rw [List.count_eq_zero_of_not_mem hno]
        exact Nat.zero_le 1
      · obtain ⟨c, rest, rfl⟩ := List.exists_cons_of_ne_nil hne
        exact ⟨c, List.mem_cons_self, hdigits c List.mem_cons_self⟩
  · have hno := t.notMem_beforePoint
    generalize t.beforePoint = whole at *
    generalize t.behindPoint = fraction at *
    subst hsplit
    have hcount : (whole ++ '.' :: fraction).count '.' = fraction.count '.' + 1 := by
      rw [List.count_append, List.count_eq_zero_of_not_mem hno, List.count_cons_self, Nat.zero_add]
    have hmem {c : Char} : c ∈ whole ++ '.' :: fraction ↔ c ∈ whole ++ fraction ∨ c = '.' := by
      simp only [List.mem_append, List.mem_cons]
      tauto
    constructor
    · rintro ⟨hchars, hone, ⟨c, hc, hdigit⟩⟩
      rw [hcount] at hone
      have hfraction : '.' ∉ fraction := List.count_eq_zero.mp (by omega)
      refine ⟨?_, fun d hd => ?_⟩
      · rcases hmem.mp hc with hc | rfl
        · exact List.ne_nil_of_mem hc
        · rw [hsame] at hdigit
          cases hdigit
      · refine (hchars d (hmem.mpr (.inl hd))).resolve_right ?_
        rintro rfl
        exact (List.mem_append.mp hd).elim hno hfraction
    · rintro ⟨hne, hdigits⟩
      have hfraction : '.' ∉ fraction := (digits_append.mp hdigits).2.notMem hsame
      refine ⟨fun c hc => ?_, ?_, ?_⟩
      · exact (hmem.mp hc).imp (hdigits c) id
      · rw [hcount, List.count_eq_zero_of_not_mem hfraction]
      · obtain ⟨c, rest, hcons⟩ := List.exists_cons_of_ne_nil hne
        have hc : c ∈ whole ++ fraction := hcons ▸ List.mem_cons_self
        exact ⟨c, hmem.mpr (.inl hc), hdigits c hc⟩

/-- Digits and points are a number exactly if they are a numeral. -/
theorem ofText?_isSome_iff {t : Text} (h : IsPlain t) :
    (ofText? t).isSome = true ↔ IsNumeral '.' t := by
  rw [ofText?_of_plain h, isNumeral_iff_digits h]
  by_cases hnil : t.beforePoint ++ t.behindPoint = []
  · simp [hnil]
  · rw [if_neg hnil, Option.isSome_map, and_iff_right hnil]
    constructor
    · intro hsome
      obtain ⟨n, hn⟩ := Option.isSome_iff_exists.mp hsome
      exact Text.digits_of_digitsValue? hn
    · intro hdigits
      obtain ⟨n, hn⟩ := Text.exists_digitsValue? hdigits
      rw [hn]
      rfl

/-- Digits around a point are read as the number that they make. -/
theorem ofText?_point {whole fraction : Text} (hdigits : Digits (whole ++ fraction))
    (hne : whole ++ fraction ≠ []) {n : Nat} (hn : digitsValue? (whole ++ fraction) = some n) :
    ofText? (whole ++ '.' :: fraction) = some ⟨false, n, -fraction.length⟩ := by
  obtain ⟨hbefore, hbehind⟩ :=
    Text.point_append ((digits_append.mp hdigits).1.notMem (by decide)) fraction
  rw [ofText?_of_plain (isPlain_point hdigits), hbefore, hbehind, if_neg hne, hn]
  rfl

/-- Digits without a point are read as a whole number. -/
theorem ofText?_digits {t : Text} (hdigits : Digits t) (hne : t ≠ []) {n : Nat}
    (hn : digitsValue? t = some n) : ofText? t = some ⟨false, n, 0⟩ := by
  obtain ⟨hbefore, hbehind⟩ := Text.point_of_notMem (hdigits.notMem (by decide))
  rw [ofText?_of_plain (isPlain_digits hdigits), hbefore, hbehind, List.append_nil, if_neg hne, hn]
  rfl

end Decimal

end BankStatement
