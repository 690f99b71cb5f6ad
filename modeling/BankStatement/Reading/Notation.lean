import BankStatement.Calendar.Layout
import BankStatement.Decimal.Notation
import BankStatement.Template.Basic

/-!
# Dates and amounts in the notation of a template

How the text of a value becomes a date or an amount. Dates are tried against the layouts of the
template in order. Amounts may be grouped, may carry a sign in front or behind (two minus signs make
a plus), and may be spaced with blanks and no-break blanks.

Main statement: `readAmount` and `readDate` fail with a cause that names the variable and quotes the
value as it was given.

A format that is no layout reads nothing and is passed over, while one that uses a directive twice
is a fault as soon as it is tried. Which formats are tried, and which marks an amount has, is said
by the template; German marks and three formats are the defaults.
-/

namespace BankStatement

namespace Template

/-! ## Dates -/

/-- Tries one date format: a format that cannot be understood reads nothing. -/
def tryDateFormat (format : Value) (t : Text) : Except Fault (Option Date) := do
  let source ← format.asText
  match Layout.ofText? source with
  | none => pure none
  | some layout =>
    if layout.distinctDirectives then pure (layout.read? t) else .error .repeatedDirective

def firstDate (t : Text) : List Value → Except Fault (Option Date)
  | [] => .ok none
  | format :: formats => do
    match ← tryDateFormat format t with
    | some d => pure (some d)
    | none => firstDate t formats

/-- The date in a text, surrounding white space ignored. -/
def readDate (template : Template) (target : Text) (value : Option Text) : Except Fault Date := do
  match ← firstDate (Text.strip (value.getD [])) template.dateFormats with
  | some d => pure d
  | none => .error (.unreadable target value (some (template.dateFormats.map Value.plain)))

/-! ## Amounts -/

def noBreakBlank : Char := Char.ofNat 0xA0

/-- Takes a sign off the end of a text; the flag tells a minus. -/
def takeTrailingSign (t : Text) : Bool × Text :=
  match t.getLast? with
  | some '-' => (true, t.dropLast)
  | some '+' => (false, t.dropLast)
  | _ => (false, t)

/-- An amount without its blanks and signs, and whether it is negative. -/
def splitSigns (t : Text) : Bool × Text :=
  let compact := Text.strip (Text.erase noBreakBlank (Text.erase ' ' t))
  let (trailing, body) := takeTrailingSign compact
  let (leading, digits) := Decimal.takeSign body
  (trailing != leading, digits)

/-- The digits of an amount with a point as the decimal mark and without grouping. -/
def plainDigits (template : Template) (digits : Text) : Except Fault Text := do
  let ungrouped ←
    if template.thousandsSeparator.isTruthy then do
      pure (Text.replace (← template.thousandsSeparator.asText) [] digits)
    else pure digits
  pure (Text.replace (← template.decimalSeparator.asText) ['.'] ungrouped)

def readAmount (template : Template) (target : Text) (value : Option Text) :
    Except Fault Decimal := do
  let (negative, digits) := splitSigns (value.getD [])
  let plain ← template.plainDigits digits
  let fault := Fault.unreadable target value none
  if plain.isEmpty || !plain.all fun c => isAnyDigit c || c == '.' then .error fault
  else
    match Decimal.ofText? plain with
    | some d => pure (d * Decimal.ofInt (if negative then -1 else 1))
    | none => .error fault

end Template

end BankStatement
