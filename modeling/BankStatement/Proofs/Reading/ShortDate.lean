import BankStatement.Proofs.Reading.GermanDate

/-!
# German dates with two digits for the year

A date of the years 1969 to 2068 can be written as `dd.mm.yy` (`Date.short`). The layout for years
of four digits finds the same numbers in this text and does not read it, since the last one is too
short (`Layout.read?_german_short`), so a template that knows both layouts reads it with the other
one (`readDate_short`).

Being refused by the first layout has to be shown for the text and not for the date: a layout that
read two digits as a year of four would give a date of the first century and never come to the
second layout. The numbers of a text are found in one way only, so it is enough to compare lengths.
-/

namespace BankStatement

open Text (padded)

/-- The written form `dd.mm.yy`. -/
def Date.short (d : Date) : Text :=
  padded 2 d.day ++ '.' :: (padded 2 d.month ++ '.' :: padded 2 (d.year % 100))

/-- The year is one that two digits stand for. -/
def Date.HasShortYear (d : Date) : Prop := 1969 ≤ d.year ∧ d.year ≤ 2068

theorem Date.HasShortYear.fullYear {d : Date} (h : d.HasShortYear) :
    DateParts.fullYear (d.year % 100) = d.year := by
  obtain ⟨hlow, hhigh⟩ := h
  unfold DateParts.fullYear
  split <;> omega

theorem Date.strip_short (d : Date) : Text.strip d.short = d.short :=
  Text.strip_numbers (by decide) (Text.digits_padded _ _) (Text.digits_padded _ _)
    (Text.digits_padded _ _)

theorem LayoutPiece.readsFirst_shortYear {n : Nat} (h : n < 100) :
    shortYear.ReadsFirst n (padded 2 n) :=
  readsFirst_anyDigits (fun _ => rfl) (by decide) h

namespace Layout

theorem read?_german_short (d : Date) : Layout.german.read? d.short = none := by
  have hyear : (padded 2 (d.year % 100)).length = 2 :=
    Text.length_padded (by decide) (Nat.mod_lt d.year (by decide))
  cases hread : Layout.german.read? d.short with
  | none => rfl
  | some d' =>
      -- the last number, the short year, would have to be one of four digits
      obtain ⟨slots, hslots, hlength⟩ := NumericLayout.german.length_third
        (figures_of_digits (Text.digits_padded 2 d.day))
        (figures_of_digits (Text.digits_padded 2 d.month)) hread
      rw [hyear, List.mem_singleton.mp hslots] at hlength
      cases hlength

/-- The layout of German dates with two digits for the year. -/
def short : Layout := [.day, .literal '.', .month, .literal '.', .shortYear]

end Layout

/-- The numbers of German dates with two digits for the year. -/
def NumericLayout.short : NumericLayout where
  mark := '.'
  first := .day
  second := .month
  third := .shortYear
  isMark := isDateMark_point
  numbers := by decide

theorem Layout.read?_short {d : Date} (h : d.HasShortYear) :
    Layout.short.read? d.short = some d := by
  obtain ⟨hday, hday', hmonth, hmonth', -, -⟩ := d.bounds
  have hwritten := NumericLayout.short.read?_written (LayoutPiece.readsFirst_day ⟨hday, hday'⟩)
    (LayoutPiece.readsFirst_month ⟨hmonth, hmonth'⟩)
    (LayoutPiece.readsFirst_shortYear (Nat.mod_lt d.year (by decide)))
  refine hwritten.trans ?_
  show (DateParts.toDate? {
    year := some (DateParts.fullYear (d.year % 100)), month := d.month, day := d.day }) = some d
  rw [h.fullYear, DateParts.toDate?_date]

namespace Template

theorem tryDateFormat_short (t : Text) :
    tryDateFormat (Value.ofString "%d.%m.%y") t = .ok (Layout.short.read? t) :=
  tryDateFormat_layout (by decide +kernel) (by decide) t

def DatesShort (template : Template) : Prop :=
  ∃ more, template.dateFormats
    = Value.ofString "%d.%m.%Y" :: Value.ofString "%d.%m.%y" :: more

theorem readDate_short {template : Template} (h : template.DatesShort) (target : Text) {d : Date}
    (hyear : d.HasShortYear) : template.readDate target (some d.short) = .ok d := by
  have hlong := tryDateFormat_german d.short
  rw [Layout.read?_german_short] at hlong
  have hshort := tryDateFormat_short d.short
  rw [Layout.read?_short hyear] at hshort
  obtain ⟨more, hmore⟩ := h
  rw [readDate, Option.getD_some, d.strip_short, hmore, firstDate, hlong]
  simp only [bind, Except.bind, firstDate, hshort]
  rfl

end Template

end BankStatement
