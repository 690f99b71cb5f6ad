import BankStatement.Source.Utf8

/-!
# Encodings by name

The encodings a text can fall back to when it is not UTF-8: five sets of one byte per character, and
UTF-8 read leniently. An encoding has several names; case does not count in them, and any run of
other characters than letters and digits separates like a low line.

The sets of one byte per character read every byte, one without a meaning as the replacement
character, so decoding with one of them never fails. It is the last resort for files that are not
Unicode.
-/

namespace BankStatement

/-- An encoding for texts that are not UTF-8. -/
inductive Encoding where
  | windows1252
  | latin1
  | latin9
  | ascii
  | codePage437
  | utf8
  | utf8WithMark
  deriving DecidableEq, Repr

namespace Encoding

/-! ## Tables -/

/-- The bytes 0x80 to 0x9F of Windows 1252, the replacement character where there is none. -/
def windows1252Table : List Nat := [
  0x20AC, 0xFFFD, 0x201A, 0x192, 0x201E, 0x2026, 0x2020, 0x2021, 0x2C6, 0x2030, 0x160, 0x2039,
  0x152, 0xFFFD, 0x17D, 0xFFFD, 0xFFFD, 0x2018, 0x2019, 0x201C, 0x201D, 0x2022, 0x2013, 0x2014,
  0x2DC, 0x2122, 0x161, 0x203A, 0x153, 0xFFFD, 0x17E, 0x178]

/-- The bytes of Latin 9 that differ from Latin 1. -/
def latin9Changes : List (Nat × Nat) := [
  (0xA4, 0x20AC), (0xA6, 0x160), (0xA8, 0x161), (0xB4, 0x17D), (0xB8, 0x17E), (0xBC, 0x152),
  (0xBD, 0x153), (0xBE, 0x178)]

/-- The bytes 0x80 to 0xFF of code page 437. -/
def codePage437Table : List Nat := [
  0xC7, 0xFC, 0xE9, 0xE2, 0xE4, 0xE0, 0xE5, 0xE7, 0xEA, 0xEB, 0xE8, 0xEF, 0xEE, 0xEC, 0xC4, 0xC5,
  0xC9, 0xE6, 0xC6, 0xF4, 0xF6, 0xF2, 0xFB, 0xF9, 0xFF, 0xD6, 0xDC, 0xA2, 0xA3, 0xA5, 0x20A7,
  0x192, 0xE1, 0xED, 0xF3, 0xFA, 0xF1, 0xD1, 0xAA, 0xBA, 0xBF, 0x2310, 0xAC, 0xBD, 0xBC, 0xA1,
  0xAB, 0xBB, 0x2591, 0x2592, 0x2593, 0x2502, 0x2524, 0x2561, 0x2562, 0x2556, 0x2555, 0x2563,
  0x2551, 0x2557, 0x255D, 0x255C, 0x255B, 0x2510, 0x2514, 0x2534, 0x252C, 0x251C, 0x2500, 0x253C,
  0x255E, 0x255F, 0x255A, 0x2554, 0x2569, 0x2566, 0x2560, 0x2550, 0x256C, 0x2567, 0x2568, 0x2564,
  0x2565, 0x2559, 0x2558, 0x2552, 0x2553, 0x256B, 0x256A, 0x2518, 0x250C, 0x2588, 0x2584, 0x258C,
  0x2590, 0x2580, 0x3B1, 0xDF, 0x393, 0x3C0, 0x3A3, 0x3C3, 0xB5, 0x3C4, 0x3A6, 0x398, 0x3A9,
  0x3B4, 0x221E, 0x3C6, 0x3B5, 0x2229, 0x2261, 0xB1, 0x2265, 0x2264, 0x2320, 0x2321, 0xF7,
  0x2248, 0xB0, 0x2219, 0xB7, 0x221A, 0x207F, 0xB2, 0x25A0, 0xA0]

def charOf (e : Encoding) (b : UInt8) : Char :=
  let n := b.toNat
  if n < 0x80 then Char.ofNat n
  else
    match e with
    | .windows1252 =>
      if n < 0xA0 then Char.ofNat (windows1252Table.getD (n - 0x80) 0xFFFD) else Char.ofNat n
    | .latin1 => Char.ofNat n
    | .latin9 => Char.ofNat ((latin9Changes.lookup n).getD n)
    | .codePage437 => Char.ofNat (codePage437Table.getD (n - 0x80) 0xFFFD)
    | _ => replacementChar

/-- The text of any bytes; what the encoding does not know is replaced. -/
def decode (e : Encoding) (bytes : Bytes) : Text :=
  match e with
  | .utf8 => Utf8.decodeLenient bytes
  | .utf8WithMark => Utf8.decodeLenient (Utf8.dropMark bytes)
  | e => bytes.map e.charOf

/-! ## Names -/

def names : List (Encoding × List String) := [
  (.windows1252, ["cp1252", "1252", "windows_1252"]),
  (.latin1, ["latin_1", "8859", "cp819", "csisolatin1", "ibm819", "iso8859", "iso8859_1",
    "iso_8859_1", "iso_8859_1_1987", "iso_ir_100", "l1", "latin", "latin1"]),
  (.latin9, ["iso8859_15", "iso_8859_15", "l9", "latin9"]),
  (.ascii, ["ascii", "646", "ansi_x3_4_1968", "ansi_x3_4_1986", "cp367", "csascii", "ibm367",
    "iso646_us", "iso_646_irv_1991", "iso_ir_6", "us", "us_ascii"]),
  (.codePage437, ["cp437", "437", "cspc8codepage437", "ibm437"]),
  (.utf8, ["utf_8", "cp65001", "u8", "utf", "utf8", "utf8_ucs2", "utf8_ucs4"]),
  (.utf8WithMark, ["utf_8_sig"])]

def isNameChar (c : Char) : Bool := c.isAlphanum

/-- A name in lower case, with a low line for every run of separators. -/
def normalizeName (pendingMark : Bool) : Text → Text
  | [] => []
  | c :: rest =>
    if isNameChar c then
      (if pendingMark then ['_', c.toLower] else [c.toLower]) ++ normalizeName false rest
    else normalizeName true rest

def ofName? (name : Text) : Option Encoding :=
  let known := normalizeName false name
  names.findSome? fun (e, aliases) => if aliases.any (·.toList == known) then some e else none

end Encoding

end BankStatement
