import BankStatement.Text.Basic

/-!
# UTF-8

Writing and reading texts in UTF-8. The reader marks malformed places instead of stopping: each
longest beginning of a character that cannot be completed counts as one malformed place. Strict
reading refuses a text with a malformed place, lenient reading shows it as the replacement
character.

The two kinds of reading are one recursion. Whether a file is text is asked with the strict one,
while the sample of a file that was not recognized is shown with the lenient one.
-/

namespace BankStatement

/-- A file's content. -/
abbrev Bytes := List UInt8

/-- What stands for bytes that cannot be read. -/
def replacementChar : Char := Char.ofNat 0xFFFD

namespace Utf8

/-- A byte from the low end of a number. -/
def byte (n : Nat) : UInt8 := UInt8.ofNat n

def encodeChar (c : Char) : Bytes :=
  let n := c.toNat
  if n < 0x80 then [byte n]
  else if n < 0x800 then [byte (0xC0 + n / 0x40), byte (0x80 + n % 0x40)]
  else if n < 0x10000 then
    [byte (0xE0 + n / 0x1000), byte (0x80 + n / 0x40 % 0x40), byte (0x80 + n % 0x40)]
  else
    [byte (0xF0 + n / 0x40000), byte (0x80 + n / 0x1000 % 0x40), byte (0x80 + n / 0x40 % 0x40),
      byte (0x80 + n % 0x40)]

def encode (t : Text) : Bytes := t.flatMap encodeChar

/-- A byte that continues a character. -/
def isTail (b : UInt8) : Bool := 0x80 ≤ b && b ≤ 0xBF

/-- Whether `b` may follow the first byte `a` of a character of three bytes: overlong forms and
surrogates are excluded. -/
def follows3 (a b : UInt8) : Bool :=
  if a = 0xE0 then 0xA0 ≤ b && b ≤ 0xBF
  else if a = 0xED then 0x80 ≤ b && b ≤ 0x9F
  else isTail b

/-- Whether `b` may follow the first byte `a` of a character of four bytes: overlong forms and code
points beyond the last one are excluded. -/
def follows4 (a b : UInt8) : Bool :=
  if a = 0xF0 then 0x90 ≤ b && b ≤ 0xBF
  else if a = 0xF4 then 0x80 ≤ b && b ≤ 0x8F
  else isTail b

/-- The six bits a tail byte carries. -/
def tailBits (b : UInt8) : Nat := b.toNat - 0x80

/-- The characters of some bytes, `none` for every malformed place. -/
def decode : Bytes → List (Option Char)
  | [] => []
  | a :: rest =>
    if a < 0x80 then some (Char.ofNat a.toNat) :: decode rest
    else if 0xC2 ≤ a && a ≤ 0xDF then
      match rest with
      | [] => [none]
      | b :: rest1 =>
        if isTail b then some (Char.ofNat ((a.toNat - 0xC0) * 0x40 + tailBits b)) :: decode rest1
        else none :: decode (b :: rest1)
    else if 0xE0 ≤ a && a ≤ 0xEF then
      match rest with
      | [] => [none]
      | b :: rest1 =>
        if follows3 a b then
          match rest1 with
          | [] => [none]
          | c :: rest2 =>
            if isTail c then
              some (Char.ofNat ((a.toNat - 0xE0) * 0x1000 + tailBits b * 0x40 + tailBits c)) ::
                decode rest2
            else none :: decode (c :: rest2)
        else none :: decode (b :: rest1)
    else if 0xF0 ≤ a && a ≤ 0xF4 then
      match rest with
      | [] => [none]
      | b :: rest1 =>
        if follows4 a b then
          match rest1 with
          | [] => [none]
          | c :: rest2 =>
            if isTail c then
              match rest2 with
              | [] => [none]
              | d :: rest3 =>
                if isTail d then
                  some (Char.ofNat ((a.toNat - 0xF0) * 0x40000 + tailBits b * 0x1000
                    + tailBits c * 0x40 + tailBits d)) :: decode rest3
                else none :: decode (d :: rest3)
            else none :: decode (c :: rest2)
        else none :: decode (b :: rest1)
    else none :: decode rest

/-- The text of well-formed bytes. -/
def decode? (bytes : Bytes) : Option Text := (decode bytes).mapM id

/-- The text of any bytes, malformed places replaced. -/
def decodeLenient (bytes : Bytes) : Text := (decode bytes).map (·.getD replacementChar)

def mark : Bytes := [0xEF, 0xBB, 0xBF]

def dropMark (bytes : Bytes) : Bytes := if mark.isPrefixOf bytes then bytes.drop 3 else bytes

end Utf8

end BankStatement
