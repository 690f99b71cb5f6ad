import BankStatement.Document.Value
import BankStatement.Decimal.Notation

/-!
# Messages with places for values

The message of a journal record may have places that values are written into. A place starts with a
percent sign and ends with the letter of its kind; between the two stand an optional name in
parentheses, flags, a width and a number of decimal places. Two percent signs are one percent sign.

Values go into unnamed places in order, and every one of them has to be used.
-/

namespace BankStatement.Journal

/-- A place for a value. -/
structure Place where
  /-- The name of the value, for values that come with names. -/
  name : Option Text := none
  flags : Text := []
  width : Nat := 0
  places : Option Nat := none
  /-- The letter that tells how the value is written. -/
  kind : Char
  deriving DecidableEq, Repr

/-- A piece of a message. -/
inductive Piece where
  | plain (c : Char)
  | place (p : Place)
  deriving DecidableEq, Repr

namespace Place

/-- Whether a flag is set. -/
def has (p : Place) (flag : Char) : Bool := p.flags.contains flag

/-- A text filled up to the width of the place, in front unless it is left aligned. -/
def filled (p : Place) (t : Text) : Text :=
  let gap := List.replicate (p.width - t.length) ' '
  if p.has '-' then t ++ gap else gap ++ t

/-- A number with its sign, filled up to the width of the place; zeros go behind the sign. -/
def signed (p : Place) (negative : Bool) (digits : Text) : Text :=
  let sign := if negative then ['-'] else if p.has '+' then ['+']
    else if p.has ' ' then [' '] else []
  if p.has '0' && !p.has '-' then
    sign ++ List.replicate (p.width - sign.length - digits.length) '0' ++ digits
  else p.filled (sign ++ digits)

/-- The whole number in a value; places for whole numbers cut off fractions. -/
def whole? : Value → Option Int
  | .bool b => some (if b then 1 else 0)
  | .int n => some n
  | .real (.finite negative mantissa exponent) => some (Binary.truncate negative mantissa exponent)
  | _ => none

/-- The floating point number in a value. -/
def real? : Value → Option Binary
  | .bool b => some (.ofScientific false (if b then 1 else 0) 0)
  | .int n => match Binary.ofScientific (decide (n < 0)) n.natAbs 0 with
    | .finite negative mantissa exponent => some (.finite negative mantissa exponent)
    | _ => none
  | .real x => some x
  | _ => none

/-- The digits of `mantissa * 2 ^ exponent`, rounded to a number of decimal places. -/
def fixedDigits (places mantissa : Nat) (exponent : Int) : Text :=
  let (num, den) := Binary.powFraction 2 exponent
  let scaled := Decimal.roundDiv (mantissa * num * Decimal.tenTo places) den
  let digits := Text.padded (places + 1) scaled
  let wholes := digits.length - places
  if places = 0 then digits else digits.take wholes ++ '.' :: digits.drop wholes

/-- A whole number with at least as many digits as the place asks for. -/
def wholeDigits (p : Place) (digits : Text) : Text :=
  List.replicate (p.places.getD 0 - digits.length) '0' ++ digits

/-- A value as the place wants it written, if it can be. -/
def write? (p : Place) (v : Value) : Option Text :=
  if p.kind = 's' then
    some (p.filled (match p.places with
      | some n => v.plain.take n
      | none => v.plain))
  else if p.kind = 'r' then
    some (p.filled (match p.places with
      | some n => v.shown.take n
      | none => v.shown))
  else if p.kind = 'd' ∨ p.kind = 'i' ∨ p.kind = 'u' then
    (whole? v).map fun n => p.signed (decide (n < 0)) (p.wholeDigits (Text.ofNat n.natAbs))
  else if p.kind = 'x' ∨ p.kind = 'o' then
    match v with
    | .real _ => none
    | v => (whole? v).map fun n =>
      let base := if p.kind = 'x' then 16 else 8
      p.signed (decide (n < 0)) (p.wholeDigits (Nat.toDigits base n.natAbs))
  else if p.kind = 'f' ∨ p.kind = 'F' then
    (real? v).map fun x => match x with
      | .finite negative mantissa exponent =>
        p.signed negative (fixedDigits (p.places.getD 6) mantissa exponent)
      | .infinite negative => p.filled ((if negative then ['-'] else []) ++ "inf".toList)
      | .notANumber => p.filled "nan".toList
  else none

end Place

/-! ## Reading a message -/

/-- Splits off a leading run of digits and gives its value, zero without any. -/
def takeNumber (t : Text) : Nat × Text :=
  let isDigit := fun c : Char => '0' ≤ c && c ≤ '9'
  ((Text.digitsValue? (t.takeWhile isDigit)).getD 0, t.dropWhile isDigit)

/-- Splits off the name in parentheses, if the place has one. -/
def takeName : Text → Option Text × Text
  | '(' :: rest => (some (rest.takeWhile (· != ')')), (rest.dropWhile (· != ')')).drop 1)
  | t => (none, t)

/-- Splits off the number of decimal places, if the place has one. -/
def takePlaces : Text → Option Nat × Text
  | '.' :: rest => let (n, after) := takeNumber rest; (some n, after)
  | t => (none, t)

/-- Reads a place behind its percent sign. -/
def readPlace? (t : Text) : Option (Place × Text) :=
  let (name, t) := takeName t
  let isFlag := fun c : Char => "-+ #0".toList.contains c
  let flags := t.takeWhile isFlag
  let (width, t) := takeNumber (t.dropWhile isFlag)
  let (places, t) := takePlaces t
  match t with
  | kind :: rest => some (⟨name, flags, width, places, kind⟩, rest)
  | [] => none

/-- The pieces of a message. A piece takes at least one character, so the length of the message is
enough fuel. -/
def readPieces : (fuel : Nat) → Text → Option (List Piece)
  | 0, _ => none
  | _, [] => some []
  | fuel + 1, '%' :: rest => (readPlace? rest).bind fun (p, after) =>
      (readPieces fuel after).map fun pieces =>
        (if p.kind = '%' then .plain '%' else .place p) :: pieces
  | fuel + 1, c :: rest => (readPieces fuel rest).map (.plain c :: ·)

/-! ## Writing values into it -/

/-- The message with the values in their places, which are used up in order. -/
def fill : List Piece → List Value → Option Text
  | [], [] => some []
  | [], _ :: _ => none
  | .plain c :: pieces, values => (fill pieces values).map (c :: ·)
  | .place p :: pieces, v :: values =>
    if p.name.isSome then none
    else (p.write? v).bind fun t => (fill pieces values).map (t ++ ·)
  | .place _ :: _, [] => none

/-- The message with values looked up by their names. The first place may be unnamed and then takes
all of them. -/
def fillNamed (members : List (Text × Value)) : (isFirst : Bool) → List Piece → Option Text
  | _, [] => some []
  | isFirst, .plain c :: pieces => (fillNamed members isFirst pieces).map (c :: ·)
  | isFirst, .place p :: pieces =>
    let value := match p.name with
      | some name => Value.member? name members
      | none => if isFirst then some (.object members) else none
    value.bind fun v => (p.write? v).bind fun t => (fillNamed members false pieces).map (t ++ ·)

/-- The wording of a message with its values. Without values it stands as it is; a single object
with members gives its values by name. Nothing if the values do not fit. -/
def wording? (message : Text) (values : List Value) : Option Text :=
  match values with
  | [] => some message
  | [.object (m :: members)] =>
    (readPieces (message.length + 1) message).bind (fillNamed (m :: members) true)
  | values => (readPieces (message.length + 1) message).bind (fill · values)

end BankStatement.Journal
