import BankStatement.Fault
import BankStatement.Source.CodePage
import BankStatement.Source.Utf16

/-!
# Text files

Delimited exports are text files: UTF-8 with or without a byte order mark, UTF-16 with one, or an
older encoding that has to be named. Decoding gives the lines of the file as they stand; blank lines
are kept, because they end sections.

A mark of UTF-16 decides at once, and bytes behind it that are no UTF-16 are a fault. A mark of
UTF-8 is dropped, and a file that is not UTF-8 even so is read in the encoding that was named, mark
included. This encoding is looked up only then, so a name that is no encoding does no harm to files
in Unicode.
-/

namespace BankStatement.TextFile

def hasMark (bytes : Bytes) : Bool :=
  Utf8.mark.isPrefixOf bytes || (Utf16.splitMark? bytes).isSome

/-- Whether a file is text: not empty, and marked by a byte order mark or UTF-8 without a null
byte. -/
def isText : Option Bytes → Bool
  | none => false
  | some bytes =>
    !bytes.isEmpty && (hasMark bytes || (!bytes.contains 0 && (Utf8.decode? bytes).isSome))

/-- The text of a file; the fallback names the encoding of a file that is not Unicode. -/
def decode (fallback : Text) (bytes : Bytes) : Except Fault Text :=
  match Utf16.splitMark? bytes with
  | some (order, rest) =>
    match Utf16.decode? order rest with
    | some t => .ok t
    | none => .error .malformedBytes
  | none =>
    match Utf8.decode? (Utf8.dropMark bytes) with
    | some t => .ok t
    | none =>
      match Encoding.ofName? fallback with
      | some e => .ok (e.decode bytes)
      | none => .error .unknownEncoding

def readLines (fallback : Text) : Option Bytes → Except Fault (List Text)
  | none => .error .notSupported
  | some bytes => (decode fallback bytes).map Text.lines

end BankStatement.TextFile
