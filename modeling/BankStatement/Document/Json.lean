import BankStatement.Document.Value

/-!
# JSON

Reading a document from JSON text and writing one. Besides the standard, the reader knows `NaN`,
`Infinity` and `-Infinity`; it refuses control characters inside strings, a byte order mark, a whole
number of more digits than are ever converted, and anything after the document. The writer puts a
blank after every comma and colon and escapes only what has to be escaped.
-/

namespace BankStatement.Value

/-! ## Reading -/

/-- Drops the white space between tokens. -/
def skipSpace (t : Text) : Text :=
  t.dropWhile fun c => c == ' ' || c == '\n' || c == '\t' || c == '\r'

def isJsonDigit (c : Char) : Bool := '0' ≤ c && c ≤ '9'

def hexDigit? (c : Char) : Option Nat :=
  if '0' ≤ c ∧ c ≤ '9' then some (c.toNat - '0'.toNat)
  else if 'a' ≤ c ∧ c ≤ 'f' then some (c.toNat - 'a'.toNat + 10)
  else if 'A' ≤ c ∧ c ≤ 'F' then some (c.toNat - 'A'.toNat + 10)
  else none

def hexValue? (digits : Text) : Option Nat :=
  digits.foldl (fun value c => value.bind fun v => (hexDigit? c).map fun d => 16 * v + d) (some 0)

def shortEscape? : Char → Option Char
  | '"' => some '"'
  | '\\' => some '\\'
  | '/' => some '/'
  | 'b' => some (Char.ofNat 8)
  | 'f' => some (Char.ofNat 12)
  | 'n' => some '\n'
  | 'r' => some '\r'
  | 't' => some '\t'
  | _ => none

/-- The characters of UTF-16 units: a surrogate pair is one character, a lone surrogate the
replacement character. -/
def ofUnits : List Nat → Text
  | [] => []
  | hi :: lo :: rest =>
    if 0xD800 ≤ hi ∧ hi < 0xDC00 ∧ 0xDC00 ≤ lo ∧ lo < 0xE000 then
      Char.ofNat (0x10000 + (hi - 0xD800) * 0x400 + (lo - 0xDC00)) :: ofUnits rest
    else one hi :: ofUnits (lo :: rest)
  | [u] => [one u]
where
  /-- One unit on its own. -/
  one (u : Nat) : Char :=
    if 0xD800 ≤ u ∧ u < 0xE000 then Char.ofNat 0xFFFD else Char.ofNat u

/-- Reads the rest of a string after its opening quotation mark. `units` holds code point escapes
that were just read, in reverse, so that a pair of them can form one character; `read` holds the
characters before them, in reverse. -/
def readString (read : Text) (units : List Nat) : Text → Option (Text × Text)
  | [] => none
  | '\\' :: 'u' :: a :: b :: c :: d :: rest =>
    match hexValue? [a, b, c, d] with
    | some u => readString read (u :: units) rest
    | none => none
  | '\\' :: e :: rest =>
    match shortEscape? e with
    | some c => readString (c :: flush read units) [] rest
    | none => none
  | c :: rest =>
    if c = '"' then some ((flush read units).reverse, rest)
    else if c.toNat < 32 ∨ c = '\\' then none
    else readString (c :: flush read units) [] rest
where
  /-- The characters read so far, the pending units included, in reverse. -/
  flush (read : Text) (units : List Nat) : Text :=
    if units.isEmpty then read else (ofUnits units.reverse).reverse ++ read

def takeDigits (t : Text) : Text × Text := (t.takeWhile isJsonDigit, t.dropWhile isJsonDigit)

/-- Reads a number; its sign has been read already. -/
def readNumber (negative : Bool) (t : Text) : Option (Value × Text) :=
  let (whole, rest) := match t with
    | '0' :: rest => (['0'], rest)
    | _ => takeDigits t
  let (fraction, rest) := match rest with
    | '.' :: tail =>
      let (digits, after) := takeDigits tail
      if digits.isEmpty then ([], rest) else (digits, after)
    | _ => ([], rest)
  let (power, rest) := match rest with
    | c :: tail =>
      if c = 'e' ∨ c = 'E' then
        let (negativePower, tail) := Decimal.takeSign tail
        let (digits, after) := takeDigits tail
        if digits.isEmpty then (none, rest)
        else (((Text.digitsValue? digits).map fun n =>
          if negativePower then -Int.ofNat n else Int.ofNat n), after)
      else (none, rest)
    | [] => (none, rest)
  if whole.isEmpty then none
  else
    match fraction.isEmpty, power with
    | true, none =>
      if Text.maxNumberDigits < whole.length then none
      else (Text.digitsValue? whole).map fun n =>
        (.int (if negative then -Int.ofNat n else Int.ofNat n), rest)
    | _, power =>
      (Text.digitsValue? (whole ++ fraction)).map fun n =>
        (.real (.ofScientific negative n (power.getD 0 - fraction.length)), rest)

def afterLiteral? (literal : String) (t : Text) : Option Text :=
  if literal.toList.isPrefixOf t then some (t.drop literal.length) else none

/-- Reads a value that is neither a string, a list nor an object. -/
def readScalar (t : Text) : Option (Value × Text) :=
  match afterLiteral? "null" t with
  | some rest => some (.null, rest)
  | none => match afterLiteral? "true" t with
    | some rest => some (.bool true, rest)
    | none => match afterLiteral? "false" t with
      | some rest => some (.bool false, rest)
      | none => match afterLiteral? "NaN" t with
        | some rest => some (.real .notANumber, rest)
        | none => match afterLiteral? "Infinity" t with
          | some rest => some (.real (.infinite false), rest)
          | none => match afterLiteral? "-Infinity" t with
            | some rest => some (.real (.infinite true), rest)
            | none => match t with
              | '-' :: rest => readNumber true rest
              | rest => readNumber false rest

mutual

/-- Reads a value at the start of a text without leading white space. Every step consumes a
character, so the length of the text is enough fuel. -/
def readValue : (fuel : Nat) → Text → Option (Value × Text)
  | 0, _ => none
  | fuel + 1, t =>
    match t with
    | '"' :: rest => (readString [] [] rest).map fun (s, after) => (.text s, after)
    | '[' :: rest =>
      match skipSpace rest with
      | ']' :: after => some (.list [], after)
      | start => (readItems fuel start).map fun (items, after) => (.list items, after)
    | '{' :: rest =>
      match skipSpace rest with
      | '}' :: after => some (.object [], after)
      | start => (readMembers fuel [] start).map fun (members, after) => (.object members, after)
    | _ => readScalar t

/-- Reads the elements of a list up to its closing bracket. -/
def readItems : (fuel : Nat) → Text → Option (List Value × Text)
  | 0, _ => none
  | fuel + 1, t =>
    match readValue fuel t with
    | none => none
    | some (v, after) =>
      match skipSpace after with
      | ']' :: rest => some ([v], rest)
      | ',' :: rest => (readItems fuel (skipSpace rest)).map fun (items, last) => (v :: items, last)
      | _ => none

/-- Reads the members of an object up to its closing brace, behind those already read. -/
def readMembers : (fuel : Nat) → List (Text × Value) → Text → Option (List (Text × Value) × Text)
  | 0, _, _ => none
  | fuel + 1, members, t =>
    match t with
    | '"' :: rest =>
      match readString [] [] rest with
      | none => none
      | some (name, after) =>
        match skipSpace after with
        | ':' :: after =>
          match readValue fuel (skipSpace after) with
          | none => none
          | some (v, after) =>
            match skipSpace after with
            | '}' :: last => some (insertMember name v members, last)
            | ',' :: rest => readMembers fuel (insertMember name v members) (skipSpace rest)
            | _ => none
        | _ => none
    | _ => none

end

/-- Reads a whole document; white space around it is allowed, anything else is not. -/
def ofJson? (t : Text) : Option Value :=
  match readValue (t.length + 1) (skipSpace t) with
  | some (v, rest) => if (skipSpace rest).isEmpty then some v else none
  | none => none

/-! ## Writing -/

/-- How one character stands inside a string. -/
def jsonChar (c : Char) : Text :=
  if c = '"' then ['\\', '"']
  else if c = '\\' then ['\\', '\\']
  else if c = '\n' then ['\\', 'n']
  else if c = '\r' then ['\\', 'r']
  else if c = '\t' then ['\\', 't']
  else if c.toNat = 8 then ['\\', 'b']
  else if c.toNat = 12 then ['\\', 'f']
  else if c.toNat < 32 then '\\' :: 'u' :: Text.hexPadded 4 c.toNat
  else [c]

def jsonString (t : Text) : Text := '"' :: t.flatMap jsonChar ++ ['"']

/-- A floating point number; the three special ones have names. -/
def jsonReal : Binary → Text
  | .notANumber => "NaN".toList
  | .infinite negative => (if negative then ['-'] else []) ++ "Infinity".toList
  | x => x.toText

mutual

/-- The document as JSON text on one line. -/
def toJson : Value → Text
  | .null => "null".toList
  | .bool true => "true".toList
  | .bool false => "false".toList
  | .int n => Text.ofInt n
  | .real x => jsonReal x
  | .text t => jsonString t
  | .list items => '[' :: Text.joinWith ", ".toList (itemTexts items) ++ [']']
  | .object members => '{' :: Text.joinWith ", ".toList (memberTexts members) ++ ['}']

def itemTexts : List Value → List Text
  | [] => []
  | v :: rest => toJson v :: itemTexts rest

def memberTexts : List (Text × Value) → List Text
  | [] => []
  | (name, v) :: rest => (jsonString name ++ ": ".toList ++ toJson v) :: memberTexts rest

end

end BankStatement.Value
