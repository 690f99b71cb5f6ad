import BankStatement.Calendar.Date
import BankStatement.Text.Case

/-!
# Date layouts

A layout such as `%d.%m.%Y` says how a date is written. It is a sequence of pieces; a text is read
piece by piece, each piece trying its spellings in a fixed order (two digits before one). The first
sequence of spellings that fits the beginning of the text is taken, and it has to be the whole text.

Characters that are no directive stand for themselves, case ignored; a run of white space stands for
any run of white space. A time of day may be part of a layout: it is checked and dropped. Years of
two digits lie between 1969 and 2068.

The directives understood are those of a calendar date and of the clock to the second: `%d`, `%m`,
`%Y`, `%y`, `%B`, `%b`, `%j`, `%H`, `%M`, `%S` and `%%`. Not understood are the day of the week
(`%a`, `%A`, `%u`, `%w`) and the week of the year (`%U`, `%W`, `%V`, `%G`), the hour of twelve with
its half of the day (`%I`, `%p`), fractions of a second (`%f`), time zones (`%z`, `%Z`) and the
formats of a locale (`%c`, `%x`, `%X`). A layout with one of these, though other readers of dates
know it, is treated here like one with a directive that does not exist: it reads no text at all.
Names of months are the English ones.

A layout that uses a directive twice is a fault of the template.
-/

namespace BankStatement

inductive LayoutPiece where
  | literal (c : Char)
  | blanks
  | day
  | month
  | year
  | shortYear
  | monthName
  | monthAbbreviation
  | dayOfYear
  | hour
  | minute
  | second
  deriving DecidableEq, Repr

namespace LayoutPiece

/-- The piece of a directive letter; `none` also for the letters of weekdays, weeks, the hour of
twelve, fractions of a second, time zones and locale formats, which are not read. -/
def ofDirective? : Char → Option LayoutPiece
  | 'd' => some .day
  | 'm' => some .month
  | 'Y' => some .year
  | 'y' => some .shortYear
  | 'B' => some .monthName
  | 'b' => some .monthAbbreviation
  | 'j' => some .dayOfYear
  | 'H' => some .hour
  | 'M' => some .minute
  | 'S' => some .second
  | '%' => some (.literal '%')
  | _ => none

/-- Pieces that carry a value of the date or time. -/
def isDirective : LayoutPiece → Bool
  | .literal _ => false
  | .blanks => false
  | _ => true

/-! ## Spellings -/

/-- What one character of a number may be: a digit of a range, any decimal digit, or a blank that
fills a place. -/
inductive Slot where
  | digits (first last : Char)
  | anyDigit
  | filler
  deriving DecidableEq, Repr

/-- The value a character has in its slot. -/
def Slot.value? : Slot → Char → Option Nat
  | .digits first last, c => if first ≤ c ∧ c ≤ last then digitValue? c else none
  | .anyDigit, c => digitValue? c
  | .filler, c => if c = ' ' then some 0 else none

def readSlots (value : Nat) : List Slot → Text → Option (Nat × Text)
  | [], t => some (value, t)
  | _ :: _, [] => none
  | slot :: slots, c :: rest =>
    match slot.value? c with
    | some d => readSlots (10 * value + d) slots rest
    | none => none

/-- The spellings of a number, in the order in which they are tried. -/
def spellings : LayoutPiece → List (List Slot)
  | .day => [[.digits '3' '3', .digits '0' '1'], [.digits '1' '2', .anyDigit],
      [.digits '0' '0', .digits '1' '9'], [.digits '1' '9'], [.filler, .digits '1' '9']]
  | .month => [[.digits '1' '1', .digits '0' '2'], [.digits '0' '0', .digits '1' '9'],
      [.digits '1' '9']]
  | .year => [[.anyDigit, .anyDigit, .anyDigit, .anyDigit]]
  | .shortYear => [[.anyDigit, .anyDigit]]
  | .dayOfYear => [[.digits '3' '3', .digits '6' '6', .digits '0' '6'],
      [.digits '3' '3', .digits '0' '5', .anyDigit], [.digits '1' '2', .anyDigit, .anyDigit],
      [.digits '0' '0', .digits '1' '9', .anyDigit],
      [.digits '0' '0', .digits '0' '0', .digits '1' '9'], [.digits '1' '9', .anyDigit],
      [.digits '0' '0', .digits '1' '9'], [.digits '1' '9']]
  | .hour => [[.digits '2' '2', .digits '0' '3'], [.digits '0' '1', .anyDigit], [.anyDigit]]
  | .minute => [[.digits '0' '5', .anyDigit], [.anyDigit]]
  | .second => [[.digits '6' '6', .digits '0' '1'], [.digits '0' '5', .anyDigit], [.anyDigit]]
  | _ => []

/-- Month names with the number of their month, longer names first. -/
def monthNames : List (String × Nat) := [
  ("september", 9), ("february", 2), ("november", 11), ("december", 12), ("january", 1),
  ("october", 10), ("august", 8), ("march", 3), ("april", 4), ("june", 6), ("july", 7), ("may", 5)]

def monthAbbreviations : List (String × Nat) := [
  ("jan", 1), ("feb", 2), ("mar", 3), ("apr", 4), ("may", 5), ("jun", 6), ("jul", 7), ("aug", 8),
  ("sep", 9), ("oct", 10), ("nov", 11), ("dec", 12)]

/-- Reads a name, case ignored. The name is that of a month only if its lower case is; the value is
zero otherwise, which is no month. -/
def readName (name : Text) (month : Nat) (t : Text) : Option (Nat × Text) :=
  let start := t.take name.length
  if start.length = name.length && (name.zip start).all (fun (a, b) => Text.sameIgnoringCase a b)
  then some (if Text.lower start = name then month else 0, t.drop name.length)
  else none

/-- The ways to pass over white space at the start of a text, the longest first. -/
def blankReadings (t : Text) : List (Nat × Text) :=
  let run := (t.takeWhile isBlank).length
  (List.range run).reverse.map fun n => (0, t.drop (n + 1))

/-- All readings of a piece at the start of a text, in the order in which they are tried: the value
and the rest of the text. -/
def readings (piece : LayoutPiece) (t : Text) : List (Nat × Text) :=
  match piece with
  | .literal c =>
    match t with
    | d :: rest => if Text.sameIgnoringCase c d then [(0, rest)] else []
    | [] => []
  | .blanks => blankReadings t
  | .monthName => monthNames.filterMap fun (name, m) => readName name.toList m t
  | .monthAbbreviation => monthAbbreviations.filterMap fun (name, m) => readName name.toList m t
  | piece => piece.spellings.filterMap fun slots => readSlots 0 slots t

/-- The first reading of all pieces in a row: the value of every piece and the rest of the text. -/
def firstReading : List LayoutPiece → Text → Option (List (LayoutPiece × Nat) × Text)
  | [], t => some ([], t)
  | piece :: pieces, t =>
    (piece.readings t).findSome? fun (value, rest) =>
      (firstReading pieces rest).map fun (values, last) => ((piece, value) :: values, last)

end LayoutPiece

/-- The values read from a text, as far as a layout asks for them. -/
structure DateParts where
  year : Option Nat := none
  month : Nat := 1
  day : Nat := 1
  dayOfYear : Option Nat := none
  second : Nat := 0
  deriving DecidableEq, Repr

namespace DateParts

def fullYear (twoDigits : Nat) : Nat :=
  if twoDigits ≤ 68 then 2000 + twoDigits else 1900 + twoDigits

/-- Takes over the value of one piece; of two pieces for the same part the later wins. -/
def set (parts : DateParts) : LayoutPiece × Nat → DateParts
  | (.year, n) => { parts with year := some n }
  | (.shortYear, n) => { parts with year := some (fullYear n) }
  | (.month, n) => { parts with month := n }
  | (.monthName, n) => { parts with month := n }
  | (.monthAbbreviation, n) => { parts with month := n }
  | (.day, n) => { parts with day := n }
  | (.dayOfYear, n) => { parts with dayOfYear := some n }
  | (.second, n) => { parts with second := n }
  | _ => parts

/-- The year of a date that is written without one. -/
def defaultYear : Nat := 1900

/-- The date the parts name. A day of the year takes precedence over day and month. A 29 February
without a year is counted in a leap year, but does not exist in the default year. -/
def toDate? (parts : DateParts) : Option Date :=
  let leapDay := parts.year.isNone && parts.month == 2 && parts.day == 29
  let year := parts.year.getD (if leapDay then 1904 else defaultYear)
  if 59 < parts.second then none
  else do
    let date ← match parts.dayOfYear with
      | some n => Date.ofDayOfYear? year n
      | none => Date.ofParts? year parts.month parts.day
    if leapDay then Date.ofParts? defaultYear date.month date.day else some date

end DateParts

abbrev Layout := List LayoutPiece

namespace Layout

/-- Reads a layout; `afterBlank` tells that a run of white space is already standing for the blanks
ahead. -/
def ofTextAfter? (afterBlank : Bool) : Text → Option Layout
  | [] => some []
  | '%' :: c :: rest => do
    let piece ← LayoutPiece.ofDirective? c
    let pieces ← ofTextAfter? false rest
    some (piece :: pieces)
  | c :: rest =>
    if c = '%' then none
    else if isBlank c then
      if afterBlank then ofTextAfter? true rest
      else (ofTextAfter? true rest).map (.blanks :: ·)
    else (ofTextAfter? false rest).map (.literal c :: ·)

/-- Reads a layout; `none` if it holds a directive that `LayoutPiece.ofDirective?` does not know. -/
def ofText? (t : Text) : Option Layout := ofTextAfter? false t

def distinctDirectives (layout : Layout) : Bool :=
  let used := layout.filter (·.isDirective)
  used.eraseDups.length == used.length

def read? (layout : Layout) (t : Text) : Option Date := do
  let (values, rest) ← LayoutPiece.firstReading layout t
  if rest.isEmpty then (values.foldl DateParts.set {}).toDate? else none

end Layout

end BankStatement
