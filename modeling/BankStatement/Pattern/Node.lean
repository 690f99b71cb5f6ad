import BankStatement.Text.Case

/-!
# Patterns and how they match

A pattern is a tree of nodes. Matching is by backtracking: `Node.run` consumes some of the text and
hands what is left to a continuation, trying the node's alternatives in order until the continuation
succeeds. The first success is the match, so the order of alternatives and greediness decide which
text every group takes.

Once a repetition has met its minimum, a further round has to have moved on since the last one, so a
body that can match nothing ends the repetition instead of looping.
-/

namespace BankStatement

namespace Pattern

inductive NamedClass where
  | digit
  | blank
  | word
  deriving DecidableEq, Repr

def NamedClass.holds : NamedClass → Char → Bool
  | .digit, c => isDecimalDigit c
  | .blank, c => isBlank c
  | .word, c => isWordChar c

/-- A member of a character set. -/
inductive SetItem where
  | range (first last : Char)
  | named (cls : NamedClass) (negated : Bool)
  deriving DecidableEq, Repr

/-- Whether a character belongs to a set item. When case is ignored, a range holds every character
that equals one of its members up to case. -/
def SetItem.holds (ignoreCase : Bool) : SetItem → Char → Bool
  | .range first last, c =>
    (first ≤ c && c ≤ last) ||
      (ignoreCase && (List.range (last.toNat - first.toNat + 1)).any fun i =>
        Text.sameIgnoringCase (Char.ofNat (first.toNat + i)) c)
  | .named cls negated, c => cls.holds c != negated

/-- Places in a text that a pattern can ask for without consuming a character. -/
inductive Place where
  /-- The start of the text. -/
  | start
  /-- The end of the text, or just before a line feed that ends it. -/
  | lineEnd
  /-- The end of the text. -/
  | stop
  /-- Between a word character and something else. -/
  | wordEdge (negated : Bool)
  deriving DecidableEq, Repr

/-- A pattern tree. -/
inductive Node where
  /-- Nothing. -/
  | empty
  /-- One given character. -/
  | char (c : Char)
  /-- Any character but a line feed. -/
  | anyChar
  /-- A character in a set, or in none of its items. -/
  | oneOf (negated : Bool) (items : List SetItem)
  | place (p : Place)
  /-- A group whose text is remembered under its number. -/
  | group (index : Nat) (body : Node)
  /-- The text that a group has taken. -/
  | sameAs (index : Nat)
  | seq (first second : Node)
  | alt (first second : Node)
  /-- A body repeated; a greedy repetition tries one round more before it goes on. -/
  | times (body : Node) (least : Nat) (most : Option Nat) (greedy : Bool)
  deriving DecidableEq, Repr

/-- Where a match stands: the characters passed, the last of them, the text ahead, and the texts of
the groups closed so far, the latest first. -/
structure Spot where
  position : Nat
  before : Option Char
  ahead : Text
  groups : List (Nat × Text)
  deriving DecidableEq, Repr

namespace Spot

def advance (s : Spot) (c : Char) (rest : Text) : Spot :=
  { s with position := s.position + 1, before := some c, ahead := rest }

/-- Consumes one character of a class. -/
def consume (s : Spot) (accepts : Char → Bool) : Option Spot :=
  match s.ahead with
  | c :: rest => if accepts c then some (s.advance c rest) else none
  | [] => none

def consumeText (same : Char → Char → Bool) : Text → Spot → Option Spot
  | [], s => some s
  | c :: text, s => (s.consume (same c)).bind (consumeText same text)

/-- Whether a word character is on exactly one side. -/
def atWordEdge (s : Spot) : Bool :=
  (s.before.map isWordChar).getD false != (s.ahead.head?.map isWordChar).getD false

/-- Whether the spot is a place that a pattern asks for. -/
def isAt (s : Spot) : Place → Bool
  | .start => s.position == 0
  | .lineEnd => s.ahead.isEmpty || s.ahead == ['\n']
  | .stop => s.ahead.isEmpty
  | .wordEdge negated => s.atWordEdge != negated

end Spot

/-- What is done with the spot a node has reached. -/
abbrev Continuation := Spot → Option Spot

/-- The rounds of a repetition. `count` rounds are done, and `last` is where the last round beyond
the minimum began. A round beyond the minimum moves on, so the text ahead bounds their number and
`fuel` one more than minimum and text ahead is never used up. -/
def rounds (body : Spot → Continuation → Option Spot) (least : Nat) (most : Option Nat)
    (greedy : Bool) : (fuel count : Nat) → (last : Option Nat) → Spot → Continuation → Option Spot
  | 0, _, _, _, _ => none
  | fuel + 1, count, last, s, k =>
    if count < least then
      body s fun s' => rounds body least most greedy fuel (count + 1) last s' k
    else
      let mayGoOn := (most.map fun m => decide (count < m)).getD true && last != some s.position
      let again := fun (_ : Unit) => body s fun s' =>
        rounds body least most greedy fuel (count + 1) (some s.position) s' k
      if !mayGoOn then k s
      else if greedy then
        match again () with
        | some found => some found
        | none => k s
      else
        match k s with
        | some found => some found
        | none => again ()

namespace Node

/-- Matches a node at a spot and goes on with the continuation. -/
def run (ignoreCase : Bool) : Node → Spot → Continuation → Option Spot
  | .empty, s, k => k s
  | .char c, s, k =>
    (s.consume fun d => if ignoreCase then Text.sameIgnoringCase c d else c == d).bind k
  | .anyChar, s, k => (s.consume (· != '\n')).bind k
  | .oneOf negated items, s, k =>
    (s.consume fun c => items.any (·.holds ignoreCase c) != negated).bind k
  | .place p, s, k => if s.isAt p then k s else none
  | .group index body, s, k =>
    run ignoreCase body s fun s' =>
      k { s' with groups := (index, s.ahead.take (s'.position - s.position)) :: s'.groups }
  | .sameAs index, s, k =>
    match s.groups.lookup index with
    | some text =>
      (Spot.consumeText (fun c d => if ignoreCase then Text.sameIgnoringCase c d else c == d)
        text s).bind k
    | none => none
  | .seq first second, s, k => run ignoreCase first s fun s' => run ignoreCase second s' k
  | .alt first second, s, k =>
    match run ignoreCase first s k with
    | some found => some found
    | none => run ignoreCase second s k
  | .times body least most greedy, s, k =>
    rounds (fun s k => run ignoreCase body s k) least most greedy
      (least + s.ahead.length + 2) 0 none s k

def ofList : List Node → Node
  | [] => .empty
  | [n] => n
  | n :: rest => .seq n (ofList rest)

end Node

end Pattern

/-- A pattern: its text, its tree, and the names of its groups in the order in which they open. -/
structure Pattern where
  source : Text
  node : Pattern.Node
  names : List (Text × Nat)
  ignoreCase : Bool := false
  deriving DecidableEq, Repr

/-- The groups of a match: number and text, the latest first. -/
structure Match where
  groups : List (Nat × Text)
  deriving DecidableEq, Repr

namespace Pattern

/-- Matches at one spot. -/
def matchAt (p : Pattern) (position : Nat) (before : Option Char) (ahead : Text) : Option Match :=
  (p.node.run p.ignoreCase ⟨position, before, ahead, []⟩ some).map fun s => ⟨s.groups⟩

/-- Matches at the leftmost spot from the given one on. -/
def searchFrom (p : Pattern) (position : Nat) (before : Option Char) : Text → Option Match
  | [] => p.matchAt position before []
  | c :: rest =>
    match p.matchAt position before (c :: rest) with
    | some found => some found
    | none => searchFrom p (position + 1) (some c) rest

def search? (p : Pattern) (t : Text) : Option Match := p.searchFrom 0 none t

def matchStart? (p : Pattern) (t : Text) : Option Match := p.matchAt 0 none t

/-- The named groups of a match, in the order in which they open; `none` for a group that took no
part. -/
def namedGroups (p : Pattern) (m : Match) : List (Text × Option Text) :=
  p.names.map fun (name, index) => (name, m.groups.lookup index)

def groupText? (p : Pattern) (m : Match) (name : String) : Option Text :=
  (p.names.lookup name.toList).bind fun index => m.groups.lookup index

/-- The pattern that matches nothing. -/
def never : Pattern := ⟨[], .oneOf false [], [], false⟩

end Pattern

end BankStatement
