import BankStatement.Proofs.Reading.AmountNotation

/-!
# Amounts in German notation

A German amount has an optional sign in front, digits that may be grouped by points, a comma and two
digits behind it. It is a spelling in the German notation, so a template with these marks reads it
as its value, rounded like every result (`readAmount_german`). The digits may be of any script.

The structure describes what the patterns of the bank statements find, which is narrower than what a
template reads as an amount (`Proofs.Reading.AmountNotation`): exactly two digits behind the comma,
groups of exactly three, a sign in front only. It keeps the digits as they are written, so that the
written form is a function of it and a line of a statement can be put together from its amounts;
that its digits make a number is then a lemma and no assumption (`digitsValue?_count`).
-/

namespace BankStatement

open Text (Digits digitsValue? digits_append)

/-- An amount as it is written: the digits in front of the first point, groups of three digits, and
the two digits behind the comma. -/
structure GermanAmount where
  sign : AmountSign
  lead : Text
  groups : List Text
  cents : Text
  lead_digits : Digits lead
  lead_ne_nil : lead ≠ []
  groups_digits : ∀ g ∈ groups, Digits g ∧ g.length = 3
  cents_digits : Digits cents
  cents_length : cents.length = 2

namespace GermanAmount

def ungrouped (sign : AmountSign) (lead cents : Text) (hlead : Digits lead) (hne : lead ≠ [])
    (hcents : Digits cents) (hlength : cents.length = 2) : GermanAmount :=
  ⟨sign, lead, [], cents, hlead, hne, by simp, hcents, hlength⟩

/-- The digits with their points and the comma. -/
def unsigned (a : GermanAmount) : Text := a.lead ++ a.groups.flatMap ('.' :: ·) ++ ',' :: a.cents

def text (a : GermanAmount) : Text := a.sign.text ++ a.unsigned

def whole (a : GermanAmount) : Text := a.lead ++ a.groups.flatten

/-- The number that all digits make. -/
def count (a : GermanAmount) : Nat := (digitsValue? (a.whole ++ a.cents)).getD 0

def value (a : GermanAmount) : Decimal := ⟨a.sign == .minus, a.count, -2⟩

theorem digits_whole (a : GermanAmount) : Digits a.whole := by
  refine digits_append.mpr ⟨a.lead_digits, fun c hc => ?_⟩
  obtain ⟨g, hg, hc⟩ := List.mem_flatten.mp hc
  exact (a.groups_digits g hg).1 c hc

theorem whole_ne_nil (a : GermanAmount) : a.whole ≠ [] :=
  List.append_ne_nil_of_left_ne_nil a.lead_ne_nil _

theorem digitsValue?_count (a : GermanAmount) :
    digitsValue? (a.whole ++ a.cents) = some a.count := by
  obtain ⟨n, hn⟩ := Text.exists_digitsValue? (digits_append.mpr ⟨a.digits_whole, a.cents_digits⟩)
  rw [count, hn]
  rfl

end GermanAmount

/-! ## Reading the amount -/

namespace GermanAmount

theorem mem_text {a : GermanAmount} {c : Char} (h : c ∈ a.text) :
    isDecimalDigit c = true ∨ c ∈ ['.', ',', '+', '-'] := by
  simp only [text, unsigned, List.mem_append, List.mem_flatMap, List.mem_cons] at h
  rcases h with h | (h | ⟨g, hg, rfl | h⟩) | rfl | h
  · cases hs : a.sign <;> rw [hs] at h <;> simp_all [AmountSign.text]
  · exact .inl (a.lead_digits c h)
  · exact .inr (by decide)
  · exact .inl ((a.groups_digits g hg).1 c h)
  · exact .inr (by decide)
  · exact .inl (a.cents_digits c h)

theorem notBlank_of_mem_text {a : GermanAmount} {c : Char} (h : c ∈ a.text) :
    isBlank c = false := by
  rcases mem_text h with hc | hc
  · exact isBlank_of_isDecimalDigit hc
  · have hmarks : ∀ d ∈ ['.', ',', '+', '-'], isBlank d = false :=
      forall_mem_of_all (by decide)
    exact hmarks c hc

theorem text_ne_nil (a : GermanAmount) : a.text ≠ [] := by
  simp [text, unsigned]

/-- A German amount spells its digits in the German notation. -/
def spelling (a : GermanAmount) : AmountSpelling .german a.count 2 where
  leading := a.sign
  trailing := .none
  whole := a.whole
  fraction := a.cents
  body := a.unsigned
  text := a.text
  digits := digits_append.mpr ⟨a.digits_whole, a.cents_digits⟩
  ne_nil := List.append_ne_nil_of_left_ne_nil a.whole_ne_nil _
  coefficient_eq := a.digitsValue?_count
  scale_eq := a.cents_length
  grouped := by
    have hgroups : Text.erase '.' (a.groups.flatMap ('.' :: ·)) = a.groups.flatten := by
      have hall := a.groups_digits
      revert hall
      induction a.groups with
      | nil => exact fun _ => rfl
      | cons g gs ih =>
          intro hall
          obtain ⟨hg, hgs⟩ := List.forall_mem_cons.mp hall
          have herase : Text.erase '.' g = g := Text.erase_of_notMem (hg.1.notMem (by decide))
          rw [List.flatMap_cons, List.flatten_cons, ← ih hgs, Text.erase, List.filter_append,
            List.filter_cons_of_neg (by decide), ← Text.erase, herase]
          rfl
    have hlead : Text.erase '.' a.lead = a.lead :=
      Text.erase_of_notMem (a.lead_digits.notMem (by decide))
    have hcents : Text.erase '.' (',' :: a.cents) = ',' :: a.cents :=
      Text.erase_of_notMem
        (List.not_mem_cons_of_ne_of_not_mem (by decide) (a.cents_digits.notMem (by decide)))
    left
    rw [unsigned, Text.erase, List.filter_append, List.filter_append]
    exact congrArg₂ (· ++ ·) (congrArg₂ (· ++ ·) hlead hgroups) hcents
  spaced := by
    have herase {c : Char} (hc : isBlank c = true) : Text.erase c a.text = a.text :=
      Text.erase_of_notMem fun hmem => by
        rw [notBlank_of_mem_text hmem] at hc
        cases hc
    rw [herase (by decide), herase (by decide), text, AmountSign.text, List.append_nil]

end GermanAmount

namespace Template

def AmountsGerman (template : Template) : Prop :=
  template.thousandsSeparator = Value.ofString "." ∧ template.decimalSeparator = Value.ofString ","

variable {template : Template}

/-- A German amount is read as its value, rounded as all results are. -/
theorem readAmount_german (h : template.AmountsGerman) (target : Text) (a : GermanAmount) :
    template.readAmount target (some a.text) = .ok a.value.round := by
  have hvalue : a.spelling.value = a.value := Decimal.mk.injEq .. ▸ ⟨Bool.false_bne _, rfl, rfl⟩
  have hmarks : template.UsesMarks .german := h
  rw [← hvalue, ← readAmount_spelling hmarks target a.spelling]
  rfl

/-- An amount that has been read is rounded, so multiplying it by one changes nothing. -/
theorem mul_one_of_readAmount {target : Text} {value : Option Text} {a : Decimal}
    (h : template.readAmount target value = .ok a) : a * Decimal.ofInt 1 = a := by
  rw [readAmount] at h
  cases hplain : template.plainDigits (splitSigns (value.getD [])).2 with
  | error fault => simp only [hplain, bind, Except.bind] at h; cases h
  | ok plain =>
      simp only [hplain, bind, Except.bind] at h
      split at h
      · cases h
      · split at h
        · cases h
          rw [Decimal.mul_unit, Decimal.round_mul_one]
        · cases h

end Template

end BankStatement
