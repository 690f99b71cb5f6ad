import BankStatement.Proofs.Decimal.Notation
import BankStatement.Proofs.Decimal.Value
import BankStatement.Proofs.Reading.Assigning
import BankStatement.Template.Bundled.Barclays

/-!
# Amounts in the notation of a template

A notation has a decimal mark and a grouping mark. A spelling of a number in it may be grouped
anywhere, may have a sign at either end and blanks anywhere, and is read as the number, negated once
for each minus (`readAmount_spelling`).

With the German marks, what is left of a text without its blanks, signs and points must be a numeral
with a comma, or the text is no amount (`readAmount_error_iff`). The two statements are about
different things. The first one says that everything that can be written is read, in any notation;
the second one says what is refused, and is stated of the marks that templates use, because it has
to know that neither mark is one of the characters a numeral may hold.

A spelling is described by what is left of it when something is taken away: without grouping marks
its body is the digits around the decimal mark, without blanks its text is the body between the
signs. So no grammar of where groups and blanks may stand is needed, and none is assumed by the
program either, which erases them before it looks at the digits.

`readAmount_notation` joins this with the steps that follow: the number is rounded, which leaves it
as it is while it has at most 28 digits, multiplied, and stored as the mode says.
-/

namespace BankStatement

open Text (Digits digitsValue? digits_append)
open Decimal (digitCount precision)

/-- A sign at one end of an amount. -/
inductive AmountSign where
  | none
  | plus
  | minus
  deriving DecidableEq, Repr

def AmountSign.text : AmountSign → Text
  | .none => []
  | .plus => ['+']
  | .minus => ['-']

/-- Without blanks between its signs, an amount has none. -/
theorem isBlank_of_mem_signed {leading trailing : AmountSign} {body : Text}
    (h : ∀ c ∈ body, isBlank c = false) :
    ∀ c ∈ leading.text ++ body ++ trailing.text, isBlank c = false := by
  have hsign (sign : AmountSign) : ∀ c ∈ sign.text, isBlank c = false := by
    cases sign <;> exact forall_mem_of_all (by decide)
  intro c hc
  simp only [List.mem_append] at hc
  rcases hc with (hc | hc) | hc
  · exact hsign leading c hc
  · exact h c hc
  · exact hsign trailing c hc

/-- A character that is no digit, no blank and no sign. -/
def IsMark (c : Char) : Prop := isDecimalDigit c = false ∧ isBlank c = false ∧ c ∉ ['+', '-']

instance (c : Char) : Decidable (IsMark c) :=
  inferInstanceAs (Decidable (_ ∧ _ ∧ _))

structure AmountMarks where
  decimal : Char
  grouping : Char
  ne : decimal ≠ grouping
  decimal_mark : IsMark decimal
  grouping_mark : IsMark grouping

def AmountMarks.german : AmountMarks := ⟨',', '.', by decide, by decide, by decide⟩

variable {marks : AmountMarks} {coefficient scale : Nat}

/-- A way to write a coefficient with a number of places behind the decimal mark. Without its
grouping marks the body is two runs of digits around the decimal mark, which a whole number may do
without; without its blanks the text is the body between its signs. -/
structure AmountSpelling (marks : AmountMarks) (coefficient scale : Nat) where
  leading : AmountSign
  trailing : AmountSign
  whole : Text
  fraction : Text
  body : Text
  text : Text
  digits : Digits (whole ++ fraction)
  ne_nil : whole ++ fraction ≠ []
  coefficient_eq : digitsValue? (whole ++ fraction) = some coefficient
  scale_eq : fraction.length = scale
  grouped : Text.erase marks.grouping body = whole ++ marks.decimal :: fraction
    ∨ fraction = [] ∧ Text.erase marks.grouping body = whole
  spaced : Text.erase Template.noBreakBlank (Text.erase ' ' text)
    = leading.text ++ body ++ trailing.text

namespace AmountSpelling

/-- The number that is spelled: each minus negates it. -/
def value (x : AmountSpelling marks coefficient scale) : Decimal :=
  ⟨(x.trailing == .minus) != (x.leading == .minus), coefficient, -scale⟩

variable (x : AmountSpelling marks coefficient scale)

theorem digit_or_mark {c : Char} (h : c ∈ x.body) : isDecimalDigit c = true ∨ IsMark c := by
  by_cases hc : c = marks.grouping
  · exact .inr (hc ▸ marks.grouping_mark)
  · have hkept : c ∈ Text.erase marks.grouping x.body :=
      List.mem_filter.mpr ⟨h, by simpa using hc⟩
    rcases x.grouped with hbody | ⟨hnil, hbody⟩
    · rw [hbody, List.mem_append, List.mem_cons] at hkept
      rcases hkept with hwhole | rfl | hfraction
      · exact .inl (x.digits c (List.mem_append_left _ hwhole))
      · exact .inr marks.decimal_mark
      · exact .inl (x.digits c (List.mem_append_right _ hfraction))
    · rw [hbody] at hkept
      exact .inl (x.digits c (List.mem_append_left _ hkept))

theorem body_ne_nil : x.body ≠ [] := by
  intro hnil
  have hnone : Text.erase marks.grouping x.body = [] := by rw [hnil]; rfl
  rcases x.grouped with hbody | ⟨hfraction, hbody⟩ <;> rw [hnone] at hbody
  · exact List.append_ne_nil_of_right_ne_nil _ (List.cons_ne_nil _ _) hbody.symm
  · exact x.ne_nil (by rw [hfraction, ← hbody]; rfl)

end AmountSpelling

/-- Every number can be spelled, with any signs. -/
theorem exists_spelling (marks : AmountMarks) (coefficient scale : Nat)
    (leading trailing : AmountSign) :
    ∃ x : AmountSpelling marks coefficient scale, x.leading = leading ∧ x.trailing = trailing := by
  -- so many digits that one is left in front of the mark
  have hlen : scale < (Text.padded (scale + 1) coefficient).length := by
    rw [Text.padded, List.length_append, List.length_replicate]
    omega
  have hdigits := Text.digits_padded (scale + 1) coefficient
  have hvalue := Text.digitsValue?_padded (scale + 1) coefficient
  generalize Text.padded (scale + 1) coefficient = t at hlen hdigits hvalue
  obtain ⟨whole, fraction, rfl, hscale⟩ : ∃ whole fraction, t = whole ++ fraction
      ∧ fraction.length = scale :=
    ⟨t.take (t.length - scale), t.drop (t.length - scale), (List.take_append_drop ..).symm, by
      rw [List.length_drop]; omega⟩
  have hbody {c : Char} (hc : isDecimalDigit c = false) (hne : marks.decimal ≠ c) :
      c ∉ whole ++ marks.decimal :: fraction := by
    rw [List.mem_append, List.mem_cons, or_left_comm, ← List.mem_append]
    exact not_or_intro hne.symm (hdigits.notMem hc)
  have hblank {c : Char} (hc : isBlank c = true) :
      c ∉ leading.text ++ (whole ++ marks.decimal :: fraction) ++ trailing.text := by
    intro hmem
    refine absurd (isBlank_of_mem_signed (fun d hd => ?_) c hmem) (by rw [hc]; decide)
    rw [List.mem_append, List.mem_cons, or_left_comm, ← List.mem_append] at hd
    rcases hd with rfl | hd
    · exact marks.decimal_mark.2.1
    · exact isBlank_of_isDecimalDigit (hdigits d hd)
  refine ⟨⟨leading, trailing, whole, fraction, whole ++ marks.decimal :: fraction,
    leading.text ++ (whole ++ marks.decimal :: fraction) ++ trailing.text, hdigits, ?_, hvalue,
    hscale, ?_, ?_⟩, rfl, rfl⟩
  · exact List.ne_nil_of_length_pos (by omega)
  · exact .inl (Text.erase_of_notMem (hbody marks.grouping_mark.1 marks.ne))
  · rw [Text.erase_of_notMem (hblank (c := ' ') (by decide)),
      Text.erase_of_notMem (hblank (by decide))]

/-! ## Taking the signs -/

namespace Template

theorem takeTrailingSign_append {t : Text} (h : ∀ c ∈ t.getLast?, c ∉ ['+', '-'])
    (trailing : AmountSign) :
    takeTrailingSign (t ++ trailing.text) = (trailing == .minus, t) := by
  cases trailing with
  | none =>
      rw [AmountSign.text, List.append_nil]
      unfold takeTrailingSign
      split
      next hlast => exact absurd (by decide) (h _ hlast)
      next hlast => exact absurd (by decide) (h _ hlast)
      next => rfl
  | plus => simp [takeTrailingSign, AmountSign.text]
  | minus => simp [takeTrailingSign, AmountSign.text]

theorem takeSign_append {t : Text} (h : ∀ c ∈ t.head?, c ∉ ['+', '-']) (leading : AmountSign) :
    Decimal.takeSign (leading.text ++ t) = (leading == .minus, t) := by
  cases leading with
  | none =>
      rw [AmountSign.text, List.nil_append]
      unfold Decimal.takeSign
      split
      next => exact absurd (by decide) (h _ rfl)
      next => exact absurd (by decide) (h _ rfl)
      next => rfl
  | plus => rfl
  | minus => rfl

/-- A body between signs, spaced in any way, is taken from them. -/
theorem splitSigns_signed {leading trailing : AmountSign} {body t : Text} (hne : body ≠ [])
    (hbody : ∀ c ∈ body, isBlank c = false ∧ c ∉ ['+', '-'])
    (ht : Text.erase noBreakBlank (Text.erase ' ' t) = leading.text ++ body ++ trailing.text) :
    splitSigns t = ((trailing == .minus) != (leading == .minus), body) := by
  have hstrip : Text.strip (leading.text ++ body ++ trailing.text)
      = leading.text ++ body ++ trailing.text :=
    Text.strip_of_trimmed
      (Text.trimmed_of_no_blank (isBlank_of_mem_signed fun c hc => (hbody c hc).1))
  have hlast : ∀ c ∈ (leading.text ++ body).getLast?, c ∉ ['+', '-'] := by
    intro c hc
    obtain ⟨d, hd⟩ := Option.isSome_iff_exists.mp (List.getLast?_isSome.mpr hne)
    rw [List.getLast?_append, hd, Option.some_or] at hc
    cases hc
    exact (hbody c (List.mem_of_getLast? hd)).2
  rw [splitSigns, ht, hstrip, takeTrailingSign_append hlast]
  simp only
  rw [takeSign_append fun c hc => (hbody c (List.mem_of_mem_head? hc)).2]

/-! ## Reading -/

def UsesMarks (template : Template) (marks : AmountMarks) : Prop :=
  template.thousandsSeparator = .text [marks.grouping]
    ∧ template.decimalSeparator = .text [marks.decimal]

variable {template : Template}

theorem plainDigits_of_marks (h : template.UsesMarks marks) (t : Text) :
    template.plainDigits t
      = .ok (Text.replace [marks.decimal] ['.'] (Text.erase marks.grouping t)) := by
  rw [← Text.replace_nil, plainDigits, h.1, h.2]
  rfl

section Plain

variable {target plain : Text} {value : Option Text}

/-- Digits and points are read as the number they are, with the sign that was taken. -/
theorem readAmount_of_plain
    (hplain : template.plainDigits (splitSigns (value.getD [])).2 = .ok plain) (h : IsPlain plain) :
    template.readAmount target value
      = match Decimal.ofText? plain with
        | some d => .ok ({ d with negative := d.negative != (splitSigns (value.getD [])).1 }).round
        | none => .error (.unreadable target value none) := by
  have hchars : plain.all (fun c => isAnyDigit c || c == '.') = true := by
    simpa [List.all_eq_true, IsPlain] using h
  rw [readAmount]
  simp only [hplain, Except.bind, bind, hchars, Bool.not_true, Bool.or_false]
  cases plain with
  | nil => rfl
  | cons c rest =>
      rw [List.isEmpty_cons, if_neg Bool.false_ne_true]
      cases Decimal.ofText? (c :: rest) with
      | none => rfl
      | some d =>
          simp only [Decimal.mul_unit]
          rfl

/-- A text is read exactly if its digits and points are a numeral. -/
theorem readAmount_error_iff_plain
    (hplain : template.plainDigits (splitSigns (value.getD [])).2 = .ok plain) :
    template.readAmount target value = .error (.unreadable target value none)
      ↔ ¬ IsNumeral '.' plain := by
  by_cases h : IsPlain plain
  · rw [readAmount_of_plain hplain h, ← Decimal.ofText?_isSome_iff h]
    cases Decimal.ofText? plain <;> simp
  · have hchars : plain.all (fun c => isAnyDigit c || c == '.') = false := by
      rw [Bool.eq_false_iff]
      simpa [List.all_eq_true, IsPlain] using h
    have hno : ¬ IsNumeral '.' plain := fun hnumeral =>
      h fun c hc => (hnumeral.chars c hc).imp_left isAnyDigit_of_isDecimalDigit
    rw [readAmount]
    simp only [hplain, Except.bind, bind, hchars, Bool.not_false, Bool.or_true, if_true, hno,
      not_false_eq_true]

end Plain

/-- The signs are taken off a spelling, with the blanks. -/
theorem splitSigns_spelling (x : AmountSpelling marks coefficient scale) :
    splitSigns x.text = ((x.trailing == .minus) != (x.leading == .minus), x.body) := by
  refine splitSigns_signed x.body_ne_nil (fun c hc => ?_) x.spaced
  rcases x.digit_or_mark hc with hdigit | hmark
  · have hsigns : ∀ d ∈ ['+', '-'], isDecimalDigit d = false := forall_mem_of_all (by decide)
    refine ⟨isBlank_of_isDecimalDigit hdigit, fun hsign => ?_⟩
    rw [hsigns c hsign] at hdigit
    cases hdigit
  · exact hmark.2

/-- Without its grouping marks and with a point, the body of a spelling is its digits. -/
theorem exists_plainDigits_body (h : template.UsesMarks marks)
    (x : AmountSpelling marks coefficient scale) :
    ∃ plain, template.plainDigits x.body = .ok plain ∧ IsPlain plain
      ∧ Decimal.ofText? plain = some ⟨false, coefficient, -scale⟩ := by
  have hmark {t : Text} (ht : Digits t) : Text.replace [marks.decimal] ['.'] t = t :=
    Text.replace_of_notMem (ht.notMem marks.decimal_mark.1) _
  obtain ⟨hwhole, hfraction⟩ := digits_append.mp x.digits
  rcases x.grouped with hbody | ⟨hnil, hbody⟩
  · refine ⟨x.whole ++ '.' :: x.fraction, ?_, isPlain_point x.digits, ?_⟩
    · rw [plainDigits_of_marks h, hbody, Text.replace_append, Text.replace_cons_self,
        hmark hwhole, hmark hfraction]
      rfl
    · rw [Decimal.ofText?_point x.digits x.ne_nil x.coefficient_eq, x.scale_eq]
  · have hscale : scale = 0 := by rw [← x.scale_eq, hnil]; rfl
    have hne := x.ne_nil
    have hcoefficient := x.coefficient_eq
    rw [hnil, List.append_nil] at hne hcoefficient
    refine ⟨x.whole, ?_, isPlain_digits hwhole, ?_⟩
    · rw [plainDigits_of_marks h, hbody, hmark hwhole]
    · rw [Decimal.ofText?_digits hwhole hne hcoefficient, hscale]
      rfl

/-- A spelling is read as the number that is spelled, rounded as all results are. -/
theorem readAmount_spelling (h : template.UsesMarks marks) (target : Text)
    (x : AmountSpelling marks coefficient scale) :
    template.readAmount target (some x.text) = .ok x.value.round := by
  obtain ⟨plain, hplain, hchars, hvalue⟩ := exists_plainDigits_body h x
  have hdigits : template.plainDigits (splitSigns ((some x.text).getD [])).2 = .ok plain := by
    rwa [Option.getD_some, splitSigns_spelling]
  rw [readAmount_of_plain hdigits hchars, hvalue, Option.getD_some, splitSigns_spelling]
  simp only [Bool.false_bne]
  rfl

/-! ## What is no amount -/

def withoutTrailingSign (t : Text) : Text :=
  if t.getLast? = some '+' ∨ t.getLast? = some '-' then t.dropLast else t

def withoutLeadingSign (t : Text) : Text :=
  if t.head? = some '+' ∨ t.head? = some '-' then t.tail else t

/-- What is left of a German amount without its blanks, signs and points. -/
def bareAmount (t : Text) : Text :=
  Text.erase '.' (withoutLeadingSign (withoutTrailingSign
    (Text.strip (Text.erase noBreakBlank (Text.erase ' ' t)))))

theorem mem_of_mem_bareAmount {t : Text} {c : Char} (h : c ∈ bareAmount t) : c ∈ t := by
  have hleading {u : Text} (hu : c ∈ withoutLeadingSign u) : c ∈ u := by
    unfold withoutLeadingSign at hu
    split at hu
    · exact List.mem_of_mem_tail hu
    · exact hu
  have htrailing {u : Text} (hu : c ∈ withoutTrailingSign u) : c ∈ u := by
    unfold withoutTrailingSign at hu
    split at hu
    · exact List.dropLast_subset u hu
    · exact hu
  have hcompact := Text.mem_of_mem_strip (htrailing (hleading (List.mem_filter.mp h).1))
  exact (List.mem_filter.mp (List.mem_filter.mp hcompact).1).1

theorem takeTrailingSign_snd (t : Text) : (takeTrailingSign t).2 = withoutTrailingSign t := by
  unfold takeTrailingSign withoutTrailingSign
  split
  next h => rw [if_pos (.inr h)]
  next h => rw [if_pos (.inl h)]
  next hminus hplus => rw [if_neg (not_or_intro hplus hminus)]

theorem takeSign_snd (t : Text) : (Decimal.takeSign t).2 = withoutLeadingSign t := by
  unfold Decimal.takeSign withoutLeadingSign
  split
  next => rfl
  next => rfl
  next hminus hplus =>
    rw [if_neg]
    cases t with
    | nil => simp
    | cons c rest =>
        rw [List.head?_cons, Option.some.injEq, Option.some.injEq]
        rintro (rfl | rfl)
        · exact hplus rest rfl
        · exact hminus rest rfl

theorem splitSigns_snd (t : Text) :
    (splitSigns t).2 = withoutLeadingSign (withoutTrailingSign
      (Text.strip (Text.erase noBreakBlank (Text.erase ' ' t)))) := by
  rw [← takeTrailingSign_snd, ← takeSign_snd]
  rfl

/-- With the German marks a text is read exactly if what is left of it is a numeral with a comma. -/
theorem readAmount_error_iff (h : template.UsesMarks .german) (target t : Text) :
    template.readAmount target (some t) = .error (.unreadable target (some t) none)
      ↔ ¬ IsNumeral ',' (bareAmount t) := by
  have hplain : template.plainDigits (splitSigns ((some t).getD [])).2
      = .ok ((bareAmount t).map fun c => if ',' = c then '.' else c) := by
    rw [plainDigits_of_marks h, Text.replace_char, Option.getD_some, splitSigns_snd]
    rfl
  have hpoint : '.' ∉ bareAmount t := by simp [bareAmount, Text.erase]
  rw [readAmount_error_iff_plain hplain, isNumeral_pointed (by decide) hpoint]

/-! ## Reading back -/

/-- Amounts are read back as they are spelled, and nothing else is read. A spelling of a number that
results can hold is read as exactly this number. With the German marks, a text that leaves no
numeral is an unreadable value. What is read is multiplied, exactly while the product can be held,
and stored, unless the mode keeps the amount that is there. The bound of 28 digits is that of the
arithmetic and not of the notation. -/
theorem readAmount_notation (template : Template) :
    (∀ marks, template.UsesMarks marks → ∀ coefficient scale, digitCount coefficient ≤ precision →
      (∀ leading trailing, ∃ x : AmountSpelling marks coefficient scale,
        x.leading = leading ∧ x.trailing = trailing)
      ∧ ∀ (x : AmountSpelling marks coefficient scale) (target : Text),
        template.readAmount target (some x.text) = .ok x.value)
    ∧ (template.UsesMarks .german → ∀ target t,
      template.readAmount target (some t) = .error (.unreadable target (some t) none)
        ↔ ¬ IsNumeral ',' (bareAmount t))
    ∧ ∀ t a, template.readAmount "Amount".toList (some t) = .ok a → ∀ multiplier : Int,
      ∃ product : Decimal, product = a * Decimal.ofInt multiplier
        ∧ (Decimal.Fits (multiplier * a.value) → product.value = multiplier * a.value)
        ∧ ∀ (header : Header) (m : Movement) (mode : Mode),
          (mode = .always ∨ m.amount.isZero = true →
            Target.assign template "Amount".toList t mode multiplier ⟨header, some m⟩
              = .ok (true, ⟨header, some { m with amount := product }⟩))
          ∧ (mode = .onlyWhenEmpty → m.amount.isZero = false →
            Target.assign template "Amount".toList t mode multiplier ⟨header, some m⟩
              = .ok (true, ⟨header, some m⟩)) := by
  refine ⟨fun marks hmarks coefficient scale hcount => ⟨?_, fun x target => ?_⟩, ?_, ?_⟩
  · exact exists_spelling marks coefficient scale
  · rw [readAmount_spelling hmarks, Decimal.round_of_le hcount]
  · exact readAmount_error_iff
  · intro t a hread multiplier
    refine ⟨_, rfl, Decimal.value_mul_ofInt, fun header m mode => ?_⟩
    have hassign : Target.assign template "Amount".toList t mode multiplier ⟨header, some m⟩
        = .ok (true, ⟨header, some { m with
          amount := mode.merge (!m.amount.isZero) m.amount (a * Decimal.ofInt multiplier) }⟩) :=
      Target.assign_of_places (placesIn_label .amount) (Movement.assign_amount_merge hread mode)
    refine ⟨fun hfree => hassign.trans ?_, fun hmode hfull => hassign.trans ?_⟩
    · have hmerge : ¬ (mode = .onlyWhenEmpty ∧ (!m.amount.isZero) = true) := by
        rintro ⟨rfl, hfull⟩
        rcases hfree with h | h
        · cases h
        · rw [h] at hfull
          cases hfull
      rw [Mode.merge, if_neg hmerge]
    · rw [Mode.merge, if_pos ⟨hmode, by rw [hfull]; rfl⟩]

/-- A grouped amount with a minus at both ends, blanks and a no-break blank. -/
def twiceNegative : AmountSpelling .german 123475 2 where
  leading := .minus
  trailing := .minus
  whole := "1234".toList
  fraction := "75".toList
  body := "1.234,75".toList
  text := '-' :: ' ' :: noBreakBlank :: "1.2 34,75 -".toList
  digits := by decide
  ne_nil := by decide
  coefficient_eq := by decide
  scale_eq := rfl
  grouped := .inl (by decide)
  spaced := by decide

theorem readAmount_notation_twiceNegative :
    Bundled.barclaysPlain.readAmount "Amount".toList (some twiceNegative.text)
        = .ok ⟨false, 123475, -2⟩
      ∧ Bundled.barclaysPlain.readAmount "Quantity".toList (some "1.2,3,4".toList)
        = .error (.unreadable "Quantity".toList (some "1.2,3,4".toList) none)
      ∧ ∃ product : Decimal, product.value = -3 * twiceNegative.value.value
        ∧ Target.assign Bundled.barclaysPlain "Amount".toList twiceNegative.text .always (-3)
            ⟨{}, some {}⟩
          = .ok (true, ⟨{}, some { amount := product }⟩) := by
  have hmarks : Bundled.barclaysPlain.UsesMarks .german := ⟨rfl, rfl⟩
  obtain ⟨hspelled, herror, hstored⟩ := readAmount_notation Bundled.barclaysPlain
  have hread := (hspelled .german hmarks 123475 2 (by decide)).2 twiceNegative "Amount".toList
  refine ⟨hread, (herror hmarks _ _).mpr (by decide), ?_⟩
  obtain ⟨product, -, hvalue, hassign⟩ := hstored _ _ hread (-3)
  refine ⟨product, ?_, (hassign {} {} .always).1 (.inl rfl)⟩
  have hfits : Decimal.Fits ((-3 : Int) * twiceNegative.value.value) :=
    ⟨⟨true, 370425, -2⟩, by decide,
      by norm_num [Decimal.value, AmountSpelling.value, twiceNegative]⟩
  rw [hvalue hfits]
  norm_num

end Template

end BankStatement
