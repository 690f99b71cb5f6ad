import BankStatement.Decimal.Binary
import BankStatement.Text.Quoted

/-!
# Document values

Templates, settings and journal records are documents: nested values whose shape is only known once
they are looked at. Members of an object keep the order in which they were written; a repeated name
keeps its first place and takes the last value.

`shown` is the one-line form in which messages quote a value.

A number with a fraction is a binary one, as it is in the documents. Values are used as keys where
templates are kept by their source, and there a whole number, the same number with a fraction of
zero, and a truth value of this size are one key (`sameKey`).
-/

namespace BankStatement

/-- A value of a document. -/
inductive Value where
  | null
  | bool (b : Bool)
  | int (n : Int)
  | real (x : Binary)
  | text (t : Text)
  | list (items : List Value)
  | object (members : List (Text × Value))
  deriving Repr, Inhabited

namespace Value

mutual

/-- Whether two values are the same: of one kind and with the same parts in the same order. -/
def isSame : Value → Value → Bool
  | .null, .null => true
  | .bool a, .bool b => a == b
  | .int m, .int n => m == n
  | .real x, .real y => x == y
  | .text s, .text t => s == t
  | .list items, .list others => areSame items others
  | .object members, .object others => haveSame members others
  | _, _ => false

def areSame : List Value → List Value → Bool
  | [], [] => true
  | v :: items, w :: others => isSame v w && areSame items others
  | _, _ => false

def haveSame : List (Text × Value) → List (Text × Value) → Bool
  | [], [] => true
  | (key, v) :: members, (other, w) :: others =>
    key == other && isSame v w && haveSame members others
  | _, _ => false

end

instance : BEq Value := ⟨isSame⟩

def ofString (s : String) : Value := .text s.toList

def ofText? : Option Text → Value
  | some t => .text t
  | none => .null

/-- Whether the value counts as present: everything but null, false, zero and what is empty. -/
def isTruthy : Value → Bool
  | .null => false
  | .bool b => b
  | .int n => n != 0
  | .real (.finite _ mantissa _) => mantissa != 0
  | .real _ => true
  | .text t => !t.isEmpty
  | .list items => !items.isEmpty
  | .object members => !members.isEmpty

/-- The value, unless it counts as absent. -/
def orElse (v other : Value) : Value := if v.isTruthy then v else other

/-- Adds a member at the end, or gives an existing one a new value in its place. -/
def insertMember (name : Text) (v : Value) : List (Text × Value) → List (Text × Value)
  | [] => [(name, v)]
  | (key, old) :: rest =>
    if key = name then (key, v) :: rest else (key, old) :: insertMember name v rest

def member? (name : Text) (members : List (Text × Value)) : Option Value := members.lookup name

/-- Equality of two values used as keys: numbers and truth values compare by their numeric value,
and what is not a number is the same key as itself. -/
def sameKey (v w : Value) : Bool := numeric v == numeric w
where
  /-- The value with whole numbers in one form. -/
  numeric : Value → Value
    | .bool b => .int (if b then 1 else 0)
    | .real (.finite negative mantissa exponent) =>
      let (a, b) := Binary.powFraction 2 exponent
      if mantissa * a % b = 0 then .int (Binary.truncate negative mantissa exponent)
      else .real (.finite negative mantissa exponent)
    | v => v

/-- Equality of two values: as that of keys, but what is not a number equals nothing. -/
def equals (v w : Value) : Bool := v != .real .notANumber && v.sameKey w

mutual

/-- The one-line form of a value in messages. -/
def shown : Value → Text
  | .null => "None".toList
  | .bool true => "True".toList
  | .bool false => "False".toList
  | .int n => Text.ofInt n
  | .real x => x.toText
  | .text t => Text.quoted t
  | .list items => '[' :: Text.joinWith ", ".toList (shownItems items) ++ [']']
  | .object members => '{' :: Text.joinWith ", ".toList (shownMembers members) ++ ['}']

def shownItems : List Value → List Text
  | [] => []
  | v :: rest => shown v :: shownItems rest

def shownMembers : List (Text × Value) → List Text
  | [] => []
  | (name, v) :: rest => (Text.quoted name ++ ": ".toList ++ shown v) :: shownMembers rest

end

/-- The value as plain text: a text is itself, anything else its one-line form. -/
def plain : Value → Text
  | .text t => t
  | v => shown v

end Value

end BankStatement
