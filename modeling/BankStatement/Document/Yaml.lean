import BankStatement.Document.Json
import BankStatement.Fault

/-!
# YAML

The part of YAML that settings files use: block mappings and lists by indentation, flow mappings and
lists in brackets, plain and quoted scalars, comments. Plain scalars take the type their spelling
gives them; quoted ones are texts.

A document is read as rows, each with its indentation. A row that starts a bracket or a quotation
may go on over the rows below it.
-/

namespace BankStatement

/-- A node of a YAML document. Names in a mapping may be scalars of any type. -/
inductive Yaml where
  | scalar (v : Value)
  /-- A date, with or without a time of day. -/
  | moment (written : Text)
  | list (items : List Yaml)
  | mapping (entries : List (Yaml × Yaml))
  deriving Repr, Inhabited

namespace Yaml

/-! ## The type of a plain scalar -/

/-- A blank between tokens; flow collections may go over line ends. -/
def isSpace (c : Char) : Bool := c == ' ' || c == '\t' || c == '\n'

def ungrouped (t : Text) : Text := Text.erase '_' t

/-- The value of digits of a base; low lines may stand among them. -/
def baseValue? (base : Nat) (t : Text) : Option Nat :=
  if (ungrouped t).isEmpty then none
  else (ungrouped t).foldl (fun value c => value.bind fun v =>
    (Value.hexDigit? c).bind fun d => if d < base then some (base * v + d) else none) (some 0)

/-- The value of places to the base sixty, such as the hours and minutes `1:30`. -/
def sixtiesValue? (t : Text) : Option Nat :=
  match Text.splitOn [':'] t with
  | first :: place :: places =>
    (place :: places).foldl (fun value p => value.bind fun v =>
      if p.length = 1 ∨ p.length = 2 then
        (baseValue? 10 p).bind fun d => if d < 60 then some (60 * v + d) else none
      else none) (if first.head? = some '0' then none else baseValue? 10 first)
  | _ => none

/-- A natural number: binary, octal, decimal, hexadecimal or to the base sixty. -/
def natural? (t : Text) : Option Nat :=
  match t with
  | ['0'] => some 0
  | '0' :: 'b' :: digits => baseValue? 2 digits
  | '0' :: 'x' :: digits => baseValue? 16 digits
  | '0' :: digits => baseValue? 8 digits
  | '_' :: _ => none
  | _ => if t.contains ':' then sixtiesValue? t else baseValue? 10 t

/-- The exponent at the end of a number, with its sign; the empty text is the exponent zero. -/
def power? : Text → Option Int
  | [] => some 0
  | e :: s :: digits =>
    if e = 'e' ∨ e = 'E' then
      (if digits.isEmpty then none else baseValue? 10 (digits.filter (· != '_'))).bind fun n =>
        if s = '+' then some (Int.ofNat n) else if s = '-' then some (-Int.ofNat n) else none
    else none
  | _ => none

/-- A number with a point, without its sign. -/
def fractional? (negative : Bool) (t : Text) : Option Value :=
  let isPlace := fun c => Value.isJsonDigit c || c == '_'
  match t.takeWhile isPlace, t.dropWhile isPlace with
  | whole, '.' :: rest =>
    let places := ungrouped (rest.takeWhile isPlace)
    let startsWell := if whole.isEmpty then !places.isEmpty && rest.head? != some '_'
      else whole.head? != some '_'
    if startsWell then
      (power? (rest.dropWhile isPlace)).bind fun power =>
        (Text.digitsValue? (ungrouped whole ++ places)).map fun n =>
          .real (.ofScientific negative n (power - places.length))
    else none
  | _, _ => none

def truthWords : List (String × Bool) :=
  [("yes", true), ("Yes", true), ("YES", true), ("no", false), ("No", false), ("NO", false),
   ("true", true), ("True", true), ("TRUE", true), ("false", false), ("False", false),
   ("FALSE", false), ("on", true), ("On", true), ("ON", true), ("off", false), ("Off", false),
   ("OFF", false)]

def nullWords : List String := ["", "~", "null", "Null", "NULL"]

/-- A number, whole or with a point, or one of the names of the special numbers. -/
def number? (t : Text) : Option Value :=
  let (negative, body) := Decimal.takeSign t
  match natural? body with
  | some n => some (.int (if negative then -Int.ofNat n else Int.ofNat n))
  | none =>
    if body ∈ [".inf", ".Inf", ".INF"].map String.toList then some (.real (.infinite negative))
    else if t ∈ [".nan", ".NaN", ".NAN"].map String.toList then some (.real .notANumber)
    else fractional? negative body

/-- Whether a text starts with a date: four, two and two digits between hyphens. -/
def isMoment (t : Text) : Bool :=
  match t with
  | y₁ :: y₂ :: y₃ :: y₄ :: '-' :: m₁ :: m₂ :: '-' :: d₁ :: d₂ :: rest =>
    [y₁, y₂, y₃, y₄, m₁, m₂, d₁, d₂].all Value.isJsonDigit
      && (rest.isEmpty || rest.head? == some 'T' || rest.head? == some 't'
        || (rest.head? == some ' ' && rest.contains ':'))
  | _ => false

/-- The node of a plain scalar, typed by its spelling. -/
def ofPlain (t : Text) : Yaml :=
  match truthWords.find? fun (word, _) => word.toList = t with
  | some (_, b) => .scalar (.bool b)
  | none =>
    if nullWords.any fun word => word.toList = t then .scalar .null
    else if isMoment t then .moment t
    else .scalar ((number? t).getD (.text t))

/-! ## Scalars in the text -/

def singleMark : Char := Char.ofNat 39

def doubleMark : Char := Char.ofNat 34

/-- Whether a plain scalar ends before a character: at a colon before a blank, at a comment, and in
a flow collection at its punctuation. -/
def endsPlain (inFlow afterSpace : Bool) (c : Char) (rest : Text) : Bool :=
  let isPunctuation := fun d => d == ',' || d == '[' || d == ']' || d == '\x7b' || d == '\x7d'
  (c == ':' && (match rest with
    | [] => true
    | d :: _ => isSpace d || (inFlow && isPunctuation d)))
  || (c == '#' && afterSpace)
  || (inFlow && (isPunctuation c || c == '?'))

/-- The characters of a plain scalar at the start of a text, and what follows them. -/
def takePlain (inFlow : Bool) : (afterSpace : Bool) → Text → Text × Text
  | _, [] => ([], [])
  | afterSpace, c :: rest =>
    if endsPlain inFlow afterSpace c rest then ([], c :: rest)
    else
      let (kept, after) := takePlain inFlow (isSpace c) rest
      (c :: kept, after)

def startsPlain : Text → Bool
  | [] => false
  | c :: rest =>
    if c == '-' || c == '?' || c == ':' then
      match rest with
      | [] => false
      | d :: _ => !isSpace d
    else !(",[]\x7b\x7d#&*!|>%@".toList.contains c || c == singleMark || c == doubleMark
      || c == Char.ofNat 96)

/-- Line ends inside a scalar count as blanks. -/
def unwrapped (t : Text) : Text := t.map fun c => if c = '\n' then ' ' else c

/-- Reads the rest of a text in single quotation marks, where the mark itself is written twice. -/
def readSingle : Text → Option (Text × Text)
  | [] => none
  | [c] => if c = singleMark then some ([], []) else none
  | c :: d :: rest =>
    if c = singleMark then
      if d = singleMark then (readSingle rest).map fun (t, after) => (singleMark :: t, after)
      else some ([], d :: rest)
    else (readSingle (d :: rest)).map fun (t, after) => (c :: t, after)

def escape? (c : Char) : Option Char :=
  match c with
  | '0' => some (Char.ofNat 0)
  | 'a' => some (Char.ofNat 7)
  | 'v' => some (Char.ofNat 11)
  | 'e' => some (Char.ofNat 27)
  | ' ' => some ' '
  | 'N' => some (Char.ofNat 0x85)
  | '_' => some (Char.ofNat 0xA0)
  | 'L' => some (Char.ofNat 0x2028)
  | 'P' => some (Char.ofNat 0x2029)
  | c => Value.shortEscape? c

/-- How many hexadecimal digits follow the letter of an escape by code point. -/
def escapeWidth : Char → Nat
  | 'x' => 2
  | 'u' => 4
  | 'U' => 8
  | _ => 0

/-- Reads the rest of a text in double quotation marks; every escape is a character, so the length
of the text is enough fuel. -/
def readDouble : (fuel : Nat) → Text → Option (Text × Text)
  | 0, _ => none
  | _, [] => none
  | fuel + 1, '\\' :: e :: rest =>
    if escapeWidth e = 0 then
      (escape? e).bind fun c => (readDouble fuel rest).map fun (t, after) => (c :: t, after)
    else if rest.length < escapeWidth e then none
    else
      (Value.hexValue? (rest.take (escapeWidth e))).bind fun n =>
        (readDouble fuel (rest.drop (escapeWidth e))).map
          fun (t, after) => (Char.ofNat n :: t, after)
  | fuel + 1, c :: rest =>
    if c = doubleMark then some ([], rest)
    else (readDouble fuel rest).map fun (t, after) => (c :: t, after)

def readQuoted? (t : Text) : Option (Yaml × Text) :=
  match t with
  | [] => none
  | c :: rest =>
    if c = singleMark then
      (readSingle rest).map fun (s, after) => (.scalar (.text (unwrapped s)), after)
    else if c = doubleMark then
      (readDouble (rest.length + 1) rest).map fun (s, after) =>
        (.scalar (.text (unwrapped s)), after)
    else none

/-! ## Flow collections -/

/-- Drops blanks, line ends and comments between the parts of a flow collection. `inComment` holds
inside a comment, `afterSpace` where one may start. -/
def skipFlowSpace : (inComment afterSpace : Bool) → Text → Text
  | _, _, [] => []
  | true, _, c :: rest => skipFlowSpace (c != '\n') true rest
  | false, afterSpace, c :: rest =>
    if isSpace c then skipFlowSpace false true rest
    else if c = '#' ∧ afterSpace then skipFlowSpace true true rest
    else c :: rest

/-- The text after a colon that separates a name from its value. -/
def afterColon? : Text → Option Text
  | ':' :: rest => some rest
  | _ => none

mutual

/-- Reads a node of a flow collection. Every step consumes a character, so the length of the text is
enough fuel. -/
def readFlow : (fuel : Nat) → Text → Option (Yaml × Text)
  | 0, _ => none
  | fuel + 1, t =>
    match t with
    | '[' :: rest => (readFlowItems fuel (skipFlowSpace false false rest)).map
        fun (items, after) => (.list items, after)
    | '\x7b' :: rest => (readFlowEntries fuel (skipFlowSpace false false rest)).map
        fun (entries, after) => (.mapping entries, after)
    | _ =>
      match readQuoted? t with
      | some found => some found
      | none =>
        if startsPlain t then
          let (kept, after) := takePlain true false t
          some (ofPlain (unwrapped (Text.dropRightWhile isSpace kept)), after)
        else none

/-- Reads the elements of a list up to its closing bracket. A name with a value among them is a
mapping of one entry. -/
def readFlowItems : (fuel : Nat) → Text → Option (List Yaml × Text)
  | 0, _ => none
  | fuel + 1, t =>
    match t with
    | ']' :: rest => some ([], rest)
    | _ =>
      match readFlow fuel t with
      | none => none
      | some (key, after) =>
        match readFlowValue fuel (skipFlowSpace false false after) with
        | none => none
        | some (value, after) =>
          let item := match value with
            | some v => .mapping [(key, v)]
            | none => key
          match after with
          | ']' :: rest => some ([item], rest)
          | ',' :: rest => (readFlowItems fuel (skipFlowSpace false false rest)).map
              fun (items, last) => (item :: items, last)
          | _ => none

/-- Reads the value behind a name, if there is a colon. What follows is free of blanks. -/
def readFlowValue : (fuel : Nat) → Text → Option (Option Yaml × Text)
  | 0, _ => none
  | fuel + 1, t =>
    match afterColon? t with
    | none => some (none, t)
    | some rest =>
      let start := skipFlowSpace false false rest
      match start with
      | ',' :: _ => some (some (.scalar .null), start)
      | ']' :: _ => some (some (.scalar .null), start)
      | '\x7d' :: _ => some (some (.scalar .null), start)
      | _ => (readFlow fuel start).map fun (v, after) => (some v, skipFlowSpace false false after)

/-- Reads the entries of a mapping up to its closing brace; a name alone has no value. -/
def readFlowEntries : (fuel : Nat) → Text → Option (List (Yaml × Yaml) × Text)
  | 0, _ => none
  | fuel + 1, t =>
    match t with
    | '\x7d' :: rest => some ([], rest)
    | _ =>
      match readFlow fuel t with
      | none => none
      | some (key, after) =>
        match readFlowValue fuel (skipFlowSpace false false after) with
        | none => none
        | some (value, after) =>
          let entry := (key, value.getD (.scalar .null))
          match after with
          | '\x7d' :: rest => some ([entry], rest)
          | ',' :: rest => (readFlowEntries fuel (skipFlowSpace false false rest)).map
              fun (entries, last) => (entry :: entries, last)
          | _ => none

end

/-! ## Blocks -/

/-- A row of the document that is neither blank nor a comment. -/
structure Row where
  /-- The number of blanks in front. -/
  indent : Nat
  text : Text
  deriving DecidableEq, Repr

/-- The row of a line, unless the line is blank or a comment. -/
def Row.ofLine? (line : Text) : Option Row :=
  let body := line.dropWhile (· == ' ')
  let row : Row := ⟨line.length - body.length, Text.dropRightWhile isSpace body⟩
  if row.text.isEmpty || row.text.head? == some '#' then none else some row

/-- Nothing is left on a row but perhaps a comment. -/
def isRowEnd (t : Text) : Bool := (skipFlowSpace false false t).isEmpty

/-- The name at the start of a row and the text behind its colon. -/
def splitName? (t : Text) : Option (Yaml × Text) :=
  let found := match readQuoted? t with
    | some found => some found
    | none =>
      if startsPlain t then
        let (kept, after) := takePlain false false t
        some (ofPlain (Text.dropRightWhile isSpace kept), after)
      else none
  found.bind fun (name, after) =>
    match after.dropWhile isSpace with
    | [':'] => some (name, [])
    | ':' :: c :: rest => if isSpace c then some (name, rest.dropWhile isSpace) else none
    | _ => none

/-- The text behind the hyphen of a list element, with the column at which it starts. -/
def afterHyphen? (row : Row) : Option Row :=
  match row.text with
  | ['-'] => some ⟨row.indent + 1, []⟩
  | '-' :: c :: rest =>
    if isSpace c then
      let body := rest.dropWhile isSpace
      some ⟨row.indent + 2 + (rest.length - body.length), body⟩
    else none
  | _ => none

/-- The rows below a row that belong to it: those that are indented further than `indent`. -/
def rowsBelow (indent : Nat) (rows : List Row) : List Row := rows.takeWhile (indent < ·.indent)

/-- Reads a bracket or a quotation that starts with a text and goes on over as few of the rows below
as complete it. The number of those rows comes with it. -/
def readWrapped? (start : Text) (rows : List Row) : Option (Yaml × Nat) :=
  (List.range (rows.length + 1)).findSome? fun count =>
    let t := Text.joinWith ['\n'] (start :: (rows.take count).map (·.text))
    (readFlow (t.length + 1) t).bind fun (node, after) =>
      if isRowEnd after then some (node, count) else none

/-- Reads the part of a plain scalar on one row; a name with a value cannot stand there. -/
def plainPart? (t : Text) : Option Text :=
  let (kept, after) := takePlain false true t
  if after.head? = some ':' then none else some (Text.dropRightWhile isSpace kept)

/-- Reads a scalar or a flow collection that starts with a text and may go on over the rows below.
The number of those rows comes with it. -/
def readInline? (start : Text) (rows : List Row) : Option (Yaml × Nat) :=
  if startsPlain start then
    ((start :: rows.map (·.text)).mapM plainPart?).map fun parts =>
      (ofPlain (Text.joinWith [' '] parts), rows.length)
  else readWrapped? start rows

/-- Adds an entry; a name that is already there is given the new value. -/
def insertEntry (name v : Yaml) (entries : List (Yaml × Yaml)) : List (Yaml × Yaml) :=
  match name with
  | .scalar (.text key) =>
    entries.filter (fun (other, _) => match other with
      | .scalar (.text known) => known != key
      | _ => true) ++ [(name, v)]
  | _ => entries ++ [(name, v)]

mutual

/-- Reads the node that starts with the first row. Every step consumes a character or hands over to
a more special reader, so three times the length of the document is enough fuel. -/
def readBlock : (fuel : Nat) → List Row → Option (Yaml × List Row)
  | 0, _ => none
  | _, [] => some (.scalar .null, [])
  | fuel + 1, row :: rows =>
    if (afterHyphen? row).isSome then
      (readItems fuel row.indent (row :: rows)).map fun (items, rest) => (.list items, rest)
    else if (splitName? row.text).isSome then
      (readEntries fuel row.indent [] (row :: rows)).map
        fun (entries, rest) => (.mapping entries, rest)
    else
      (readInline? row.text rows).map fun (node, count) => (node, rows.drop count)

/-- Reads the elements of a list whose hyphens stand in one column. -/
def readItems : (fuel : Nat) → (indent : Nat) → List Row → Option (List Yaml × List Row)
  | 0, _, _ => none
  | _, _, [] => some ([], [])
  | fuel + 1, indent, row :: rows =>
    if row.indent < indent then some ([], row :: rows)
    else if row.indent = indent then
      match afterHyphen? row with
      | none => some ([], row :: rows)
      | some inner =>
        let own := rowsBelow indent rows
        let rest := rows.drop own.length
        match readBlock fuel (if inner.text.isEmpty then own else inner :: own) with
        | some (item, []) => (readItems fuel indent rest).map
            fun (items, last) => (item :: items, last)
        | _ => none
    else none

/-- Reads the entries of a mapping whose names stand in one column, behind those already read. A
list may stand in the column of its name. -/
def readEntries : (fuel : Nat) → (indent : Nat) → List (Yaml × Yaml) → List Row →
    Option (List (Yaml × Yaml) × List Row)
  | 0, _, _, _ => none
  | _, _, entries, [] => some (entries, [])
  | fuel + 1, indent, entries, row :: rows =>
    if row.indent < indent then some (entries, row :: rows)
    else if row.indent = indent then
      match splitName? row.text with
      | none => none
      | some (name, start) =>
        let own := rowsBelow indent rows
        let rest := rows.drop own.length
        if isRowEnd start ∨ start.head? = some '#' then
          match own, rows with
          | [], next :: _ =>
            if next.indent = indent ∧ (afterHyphen? next).isSome then
              match readItems fuel indent rows with
              | some (items, rest) =>
                readEntries fuel indent (insertEntry name (.list items) entries) rest
              | none => none
            else readEntries fuel indent (insertEntry name (.scalar .null) entries) rest
          | _, _ =>
            match readBlock fuel own with
            | some (v, []) => readEntries fuel indent (insertEntry name v entries) rest
            | _ => none
        else
          match readInline? start own with
          | some (v, count) =>
            if count = own.length then readEntries fuel indent (insertEntry name v entries) rest
            else none
          | none => none
    else none

end

/-- The rows of a document; the line of hyphens that may open it is left out. -/
def rowsOf (t : Text) : List Row :=
  match (Text.lines t).filterMap Row.ofLine? with
  | first :: rows => if first = ⟨0, "---".toList⟩ then rows else first :: rows
  | [] => []

/-- Reads a whole document; without rows it is no value. -/
def ofText (t : Text) : Except Fault Yaml :=
  match readBlock (3 * t.length + 3) (rowsOf t) with
  | some (node, []) => .ok node
  | _ => .error .malformedYaml

end Yaml

end BankStatement
