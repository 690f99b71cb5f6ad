import BankStatement.Pattern.Reader

/-!
# Alias patterns

An alias is a name with wildcards: `*` stands for any run of characters and `?` for any one, line
feeds excepted; every other character stands for itself, case ignored. The whole text has to match,
but for a line feed at its end.

The pattern of an alias is written and then read like any other. Every character that could mean
something else is written behind a backslash, and what this makes of the two wildcards is replaced
by what they stand for.
-/

namespace BankStatement.Matching

/-- The characters that are written behind a backslash when they stand for themselves. -/
def quotedChars : Text :=
  ['(', ')', '[', ']', '{', '}', '?', '*', '+', '-', '|', '^', '$', '\\', '.', '&', '~', '#', ' ',
    '\t', '\n', '\r', '\x0b', '\x0c']

def quoteChar (c : Char) : Text := if quotedChars.contains c then ['\\', c] else [c]

def quote (t : Text) : Text := t.flatMap quoteChar

def globSource (alias_ : Text) : Text :=
  let quoted := quote (Text.lower alias_)
  let runs := Text.replace ['\\', '*'] ['.', '*'] quoted
  '^' :: Text.replace ['\\', '?'] ['.'] runs ++ ['$']

def globPattern (alias_ : Text) : Pattern :=
  ((Pattern.ofText (globSource alias_)).toOption.getD .never).caseless

/-- Whether an alias covers a text. -/
def globMatches (alias_ : Text) (t : Text) : Bool := ((globPattern alias_).matchStart? t).isSome

end BankStatement.Matching
