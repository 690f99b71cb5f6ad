import BankStatement.Proofs.Calendar.NumericLayout
import BankStatement.Proofs.Calendar.Order
import BankStatement.Reading.Notation
import Mathlib.Tactic.IntervalCases

/-!
# Dates in German notation

Every date can be written as two digits for the day, two for the month and four for the year
(`Date.german`), and a template whose first date format is `%d.%m.%Y` reads this text as the date
(`readDate_german`), whatever other formats it has behind that one.

A piece of the layout may have several readings; that of two digits comes first, whatever stands
behind them (`readsFirst_day`, `readsFirst_month`, `readsFirst_year`). For days and months this goes
through their spellings, since a day of two digits fits one of three of them by its first digit. A
number of a fixed count of any digits has one spelling only, and its lemma is shared by the years of
four and of two digits (`readsFirst_anyDigits`).

`Proofs.Calendar.NumericLayout` puts the three numbers together. What is special here is the layout
itself and that its text has no blanks around it, so that trimming a value does not change it.
-/

namespace BankStatement

open Text (Digits padded)

/-- The written form `dd.mm.yyyy`. -/
def Date.german (d : Date) : Text :=
  padded 2 d.day ++ '.' :: (padded 2 d.month ++ '.' :: padded 4 d.year)

/-! ## Its characters -/

theorem Date.german_ne_nil (d : Date) : d.german ≠ [] :=
  List.append_ne_nil_of_right_ne_nil _ (List.cons_ne_nil _ _)

theorem Date.mem_german {d : Date} {c : Char} (h : c ∈ d.german) :
    isDecimalDigit c = true ∨ c = '.' := by
  simp only [Date.german, List.mem_append, List.mem_cons] at h
  rcases h with h | h | h | h | h
  · exact .inl (Text.digits_padded _ _ c h)
  · exact .inr h
  · exact .inl (Text.digits_padded _ _ c h)
  · exact .inr h
  · exact .inl (Text.digits_padded _ _ c h)

theorem Date.length_german (d : Date) : d.german.length = 10 := by
  obtain ⟨-, hday, -, hmonth, -, hyear⟩ := d.bounds
  simp only [Date.german, List.length_append, List.length_cons]
  rw [Text.length_padded (by decide) (by omega), Text.length_padded (by decide) (by omega),
    Text.length_padded (by decide) (by omega)]

/-- There are no blanks around a written date. -/
theorem Date.strip_german (d : Date) : Text.strip d.german = d.german :=
  Text.strip_numbers (by decide) (Text.digits_padded _ _) (Text.digits_padded _ _)
    (Text.digits_padded _ _)

/-! ## Reading it -/

namespace LayoutPiece

theorem readsFirst_day {n : Nat} (h : 1 ≤ n ∧ n ≤ 31) : day.ReadsFirst n (padded 2 n) := by
  intro rest
  obtain ⟨hlow, hhigh⟩ := h
  interval_cases n <;> exact ⟨_, rfl⟩

theorem readsFirst_month {n : Nat} (h : 1 ≤ n ∧ n ≤ 12) : month.ReadsFirst n (padded 2 n) := by
  intro rest
  obtain ⟨hlow, hhigh⟩ := h
  interval_cases n <;> exact ⟨_, rfl⟩

/-- Slots for any digit read a run of digits as its value. -/
theorem readSlots_anyDigit {t : Text} (h : Digits t) (rest : Text) (value : Nat) :
    readSlots value (List.replicate t.length .anyDigit) (t ++ rest)
      = (t.foldl (fun value c => value.bind fun v => (digitValue? c).map fun d => 10 * v + d)
        (some value)).map (·, rest) := by
  induction t generalizing value with
  | nil => rfl
  | cons c t ih =>
      obtain ⟨hc, ht⟩ := List.forall_mem_cons.mp h
      obtain ⟨d, hd⟩ := Option.isSome_iff_exists.mp ((digitValue?_isSome c).trans hc)
      rw [List.length_cons, List.replicate_succ, List.cons_append, readSlots, Slot.value?, hd,
        List.foldl_cons, hd]
      exact ih ht (10 * value + d)

/-- A piece that takes a number of digits reads a number written with as many. -/
theorem readsFirst_anyDigits {piece : LayoutPiece} {width n : Nat}
    (hpiece : ∀ t, piece.readings t
      = [List.replicate width Slot.anyDigit].filterMap fun slots => readSlots 0 slots t)
    (hwidth : 0 < width) (h : n < 10 ^ width) : piece.ReadsFirst n (padded width n) := by
  intro rest
  have hslots := readSlots_anyDigit (Text.digits_padded width n) rest 0
  rw [Text.length_padded hwidth h, ← Text.digitsValue?, Text.digitsValue?_padded] at hslots
  refine ⟨[], ?_⟩
  rw [hpiece, List.filterMap_cons, hslots]
  rfl

theorem readsFirst_year {n : Nat} (h : n ≤ 9999) : year.ReadsFirst n (padded 4 n) :=
  readsFirst_anyDigits (fun _ => rfl) (by decide) (by omega)

end LayoutPiece

def Layout.german : Layout := [.day, .literal '.', .month, .literal '.', .year]

def NumericLayout.german : NumericLayout where
  mark := '.'
  first := .day
  second := .month
  third := .year
  isMark := isDateMark_point
  numbers := by decide

theorem Layout.read?_german (d : Date) : Layout.german.read? d.german = some d := by
  obtain ⟨hday, hday', hmonth, hmonth', -, hyear⟩ := d.bounds
  have hwritten := NumericLayout.german.read?_written (LayoutPiece.readsFirst_day ⟨hday, hday'⟩)
    (LayoutPiece.readsFirst_month ⟨hmonth, hmonth'⟩) (LayoutPiece.readsFirst_year hyear)
  exact hwritten.trans (DateParts.toDate?_date d)

namespace Template

/-- The first date format of a template is the German one. -/
def DatesGerman (template : Template) : Prop :=
  template.dateFormats.head? = some (Value.ofString "%d.%m.%Y")

/-- A date format reads what its layout reads. -/
theorem tryDateFormat_layout {format : String} {layout : Layout}
    (h : Layout.ofText? format.toList = some layout) (hdistinct : layout.distinctDirectives = true)
    (t : Text) : tryDateFormat (Value.ofString format) t = .ok (layout.read? t) := by
  rw [tryDateFormat, Value.ofString, Value.asText]
  simp only [Except.bind, bind, h, hdistinct, if_true]
  rfl

theorem tryDateFormat_german (t : Text) :
    tryDateFormat (Value.ofString "%d.%m.%Y") t = .ok (Layout.german.read? t) :=
  tryDateFormat_layout (by decide +kernel) (by decide) t

/-- A German date is read, whatever blanks are around it. -/
theorem readDate_of_strip {template : Template} (h : template.DatesGerman) (target : Text)
    {t : Text} {d : Date} (ht : Text.strip t = d.german) :
    template.readDate target (some t) = .ok d := by
  obtain ⟨more, hmore⟩ : ∃ more, template.dateFormats = Value.ofString "%d.%m.%Y" :: more := by
    rw [DatesGerman] at h
    cases hf : template.dateFormats with
    | nil => rw [hf] at h; cases h
    | cons f more => rw [hf] at h; cases h; exact ⟨more, rfl⟩
  rw [readDate, Option.getD_some, ht, hmore, firstDate, tryDateFormat_german, Layout.read?_german]
  rfl

theorem readDate_german {template : Template} (h : template.DatesGerman) (target : Text)
    (d : Date) : template.readDate target (some d.german) = .ok d :=
  readDate_of_strip h target d.strip_german

end Template

end BankStatement
