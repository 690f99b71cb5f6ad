import BankStatement.Text.Basic

/-!
# Calendar dates

Dates of the Gregorian calendar in the years 1 to 9999. A `Date` is valid by construction, so every
date that is read exists.

Main statement: `ofParts?_eq_some_iff`, three numbers make a date exactly when they name one.

Dates are compared by year, month and day, in this order. No arithmetic of days is needed anywhere
but in reading the number of a day within its year, which is counted off month by month.
-/

namespace BankStatement

def isLeapYear (year : Nat) : Bool :=
  year % 4 == 0 && (year % 100 != 0 || year % 400 == 0)

def daysInMonth (year month : Nat) : Nat :=
  if month = 2 then (if isLeapYear year then 29 else 28)
  else if month = 4 ∨ month = 6 ∨ month = 9 ∨ month = 11 then 30
  else 31

/-- Whether three numbers name a day of the calendar. -/
def IsDate (year month day : Nat) : Prop :=
  1 ≤ year ∧ year ≤ 9999 ∧ 1 ≤ month ∧ month ≤ 12 ∧ 1 ≤ day ∧ day ≤ daysInMonth year month

instance (year month day : Nat) : Decidable (IsDate year month day) := by
  unfold IsDate; infer_instance

/-- A day of the calendar. -/
structure Date where
  year : Nat
  month : Nat
  day : Nat
  isDate : IsDate year month day
  deriving DecidableEq, Repr

namespace Date

/-- The date that three numbers name, if they name one. -/
def ofParts? (year month day : Nat) : Option Date :=
  if h : IsDate year month day then some ⟨year, month, day, h⟩ else none

theorem ofParts?_eq_some_iff {year month day : Nat} {d : Date} :
    ofParts? year month day = some d ↔ d.year = year ∧ d.month = month ∧ d.day = day := by
  constructor
  · intro h
    unfold ofParts? at h
    split at h
    · cases h; exact ⟨rfl, rfl, rfl⟩
    · cases h
  · rintro ⟨rfl, rfl, rfl⟩
    simp [ofParts?, d.isDate]

def isBefore (a b : Date) : Bool :=
  a.year < b.year ||
    (a.year == b.year && (a.month < b.month || (a.month == b.month && a.day < b.day)))

def earlier (a b : Date) : Date := if b.isBefore a then b else a

def earliest? : List Date → Option Date
  | [] => none
  | d :: rest => some (rest.foldl earlier d)

/-- The day with a number within its year, counted from the first of a month; the days before that
month have been taken off. -/
def ofDayFrom (year : Nat) : (months : Nat) → (month day : Nat) → Option Date
  | 0, month, day => ofParts? year month day
  | months + 1, month, day =>
    if day ≤ daysInMonth year month then ofParts? year month day
    else ofDayFrom year months (month + 1) (day - daysInMonth year month)

/-- The day with a number within its year. A number past the end of the year counts on into the next
one. -/
def ofDayOfYear? (year day : Nat) : Option Date :=
  let length := if isLeapYear year then 366 else 365
  if year = 0 then none
  else if day ≤ length then ofDayFrom year 11 1 day
  else ofDayFrom (year + 1) 11 1 (day - length)

/-- The written form `yyyy-mm-dd`. -/
def toText (d : Date) : Text :=
  Text.padded 4 d.year ++ '-' :: Text.padded 2 d.month ++ '-' :: Text.padded 2 d.day

end Date

end BankStatement
