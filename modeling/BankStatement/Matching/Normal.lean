import BankStatement.Text.Case

/-!
# Normal forms for matching

Names, contract numbers, securities and account numbers are compared in normal forms that forget
what does not matter: case, umlauts written as two letters, white space, punctuation. A missing text
has the normal form of the empty one.

Main statement: `normalSecurity_append`, the normal form of securities commutes with concatenation.

The forms are not interchangeable. Names keep their punctuation and the blanks within them, contract
numbers lose blanks and hyphens, and account numbers lose blanks alone. That of securities forgets
everything but letters and digits.
-/

namespace BankStatement.Matching

/-- The two letters an umlaut or sharp s can be written as. -/
def foldedUmlaut : Char → Text
  | 'ä' => ['a', 'e']
  | 'Ä' => ['A', 'e']
  | 'ö' => ['o', 'e']
  | 'Ö' => ['O', 'e']
  | 'ü' => ['u', 'e']
  | 'Ü' => ['U', 'e']
  | 'ß' => ['s', 's']
  | c => [c]

def foldUmlauts (t : Text) : Text := t.flatMap foldedUmlaut

/-- A name in lower case, without umlauts and trailing white space. -/
def normalName (t : Option Text) : Text := foldUmlauts (Text.stripRight (Text.lower (t.getD [])))

def dropBlanks (t : Text) : Text := t.filter (!isBlank ·)

/-- A contract number in lower case, without white space and hyphens. -/
def normalContract (t : Option Text) : Text :=
  Text.lower ((t.getD []).filter fun c => !isBlank c && c != '-')

/-- A letter `A` to `Z` or a digit `0` to `9`. -/
def isPlainChar (c : Char) : Bool := ('A' ≤ c && c ≤ 'Z') || ('0' ≤ c && c ≤ '9')

/-- The name or identifier of a security in upper case, letters and digits only. -/
def normalSecurity (t : Text) : Text := (Text.upper (foldUmlauts t)).filter isPlainChar

/-- An account number in upper case, without white space. -/
def normalIban (t : Option Text) : Text := Text.upper (dropBlanks (t.getD []))

theorem foldUmlauts_append (s t : Text) :
    foldUmlauts (s ++ t) = foldUmlauts s ++ foldUmlauts t := by
  simp [foldUmlauts]

theorem normalSecurity_append (s t : Text) :
    normalSecurity (s ++ t) = normalSecurity s ++ normalSecurity t := by
  simp [normalSecurity, foldUmlauts_append, Text.upper_append]

end BankStatement.Matching
