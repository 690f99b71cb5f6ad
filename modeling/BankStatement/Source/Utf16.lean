import BankStatement.Source.Utf8

/-!
# UTF-16

Writing and reading texts in UTF-16 behind a byte order mark, which also tells the order of the
bytes in a unit. Reading is strict: half a unit at the end or a surrogate without its partner is
refused.

Text in UTF-16 without a mark is not recognized as such. No file is ever written in it; writing is
defined so that it can be said of reading that it undoes it.
-/

namespace BankStatement.Utf16

inductive ByteOrder where
  | littleEndian
  | bigEndian
  deriving DecidableEq, Repr

def ByteOrder.mark : ByteOrder → Bytes
  | .littleEndian => [0xFF, 0xFE]
  | .bigEndian => [0xFE, 0xFF]

/-- The byte order of a text that starts with a mark, and the bytes behind it. -/
def splitMark? : Bytes → Option (ByteOrder × Bytes)
  | a :: b :: rest =>
    if a = 0xFF ∧ b = 0xFE then some (.littleEndian, rest)
    else if a = 0xFE ∧ b = 0xFF then some (.bigEndian, rest)
    else none
  | _ => none

/-! ## Units and bytes -/

def unitBytes (order : ByteOrder) (unit : Nat) : Bytes :=
  match order with
  | .littleEndian => [Utf8.byte (unit % 0x100), Utf8.byte (unit / 0x100)]
  | .bigEndian => [Utf8.byte (unit / 0x100), Utf8.byte (unit % 0x100)]

def unitOf (order : ByteOrder) (a b : UInt8) : Nat :=
  match order with
  | .littleEndian => a.toNat + 0x100 * b.toNat
  | .bigEndian => 0x100 * a.toNat + b.toNat

def units? (order : ByteOrder) : Bytes → Option (List Nat)
  | [] => some []
  | [_] => none
  | a :: b :: rest => (units? order rest).map (unitOf order a b :: ·)

/-! ## Characters and units -/

def charUnits (c : Char) : List Nat :=
  let n := c.toNat
  if n < 0x10000 then [n]
  else [0xD800 + (n - 0x10000) / 0x400, 0xDC00 + (n - 0x10000) % 0x400]

/-- The first unit of a pair. -/
def isHigh (u : Nat) : Bool := 0xD800 ≤ u && u < 0xDC00

/-- The second unit of a pair. -/
def isLow (u : Nat) : Bool := 0xDC00 ≤ u && u < 0xE000

def text? : List Nat → Option Text
  | [] => some []
  | u :: rest =>
    if isHigh u then
      match rest with
      | v :: rest1 =>
        if isLow v then
          (text? rest1).map (Char.ofNat (0x10000 + (u - 0xD800) * 0x400 + (v - 0xDC00)) :: ·)
        else none
      | [] => none
    else if isLow u then none
    else (text? rest).map (Char.ofNat u :: ·)

/-- The bytes of a text behind a byte order mark. -/
def encode (order : ByteOrder) (t : Text) : Bytes :=
  order.mark ++ (t.flatMap charUnits).flatMap (unitBytes order)

/-- The text of bytes in a given order. -/
def decode? (order : ByteOrder) (bytes : Bytes) : Option Text := (units? order bytes).bind text?

end BankStatement.Utf16
