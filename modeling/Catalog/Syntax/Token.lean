/-!
# Tokens of a Python module

Indentation is shown by tokens of its own. A module that cannot be cut into tokens ends with a
token that says why.
-/

namespace Catalog.Syntax

/-- Why the tokens of a module stop before its end. -/
inductive LexicalFault where
  /-- A character, number or string that is no token, or a bracket without its partner. -/
  | badToken
  /-- The text ends inside brackets or after a line continuation. -/
  | unexpectedEnd
  /-- Something follows a line continuation on its line. -/
  | badContinuation
  /-- A line goes back to a column where no block began. -/
  | badDedent
  /-- Blocks are nested too deep. -/
  | tooManyIndents
  /-- Tabs and spaces are mixed so that the depth of a line depends on the width of a tab. -/
  | mixedTabs
  deriving DecidableEq, Repr

/-- A string literal as it is written. -/
structure StringLiteral where
  raw : Bool
  bytes : Bool
  format : Bool
  /-- The characters between the quotes. -/
  body : List Char
  deriving DecidableEq, Repr

/-- What a token is. -/
inductive TokenKind where
  | name (text : String)
  | keyword (text : String)
  | number (imaginary : Bool)
  | string (literal : StringLiteral)
  | op (text : String)
  | newline
  | indent
  | dedent
  | endMarker
  | fault (cause : LexicalFault)
  deriving DecidableEq, Repr, Inhabited

/-- A token and the line on which it begins. -/
structure Token where
  kind : TokenKind
  line : Nat
  deriving DecidableEq, Repr, Inhabited

/-- Words that cannot be names. -/
def keywords : List String :=
  ["False", "None", "True", "and", "as", "assert", "async", "await", "break", "class", "continue",
   "def", "del", "elif", "else", "except", "finally", "for", "from", "global", "if", "import",
   "in", "is", "lambda", "nonlocal", "not", "or", "pass", "raise", "return", "try", "while",
   "with", "yield"]

end Catalog.Syntax
