/-
# Tokens

The words of source code.  A token knows where it starts and where it stops; a line is
counted from one and a column is the number of bytes before it in its line.
-/

namespace DeclSearch
namespace Python

/-- A place in source code. -/
structure Position where
  line : Nat
  column : Nat
  deriving Repr, DecidableEq

/-- A string literal without its quotes: the letters in front of it, in lower case, its
octets, and the place of the first of them. -/
structure Literal where
  letters : List Char
  body : List Char
  start : Position
  deriving Repr, DecidableEq

/-- What a token is.  The name of an identifier is in normal form; `plain` says that it was
written in ASCII, without which it cannot serve as a soft keyword.  An integer with too many digits
is a token, but it has no value. -/
inductive Word where
  | keyword (text : String)
  | name (id : String) (plain : Bool)
  | number (imaginary : Bool)
  | hugeNumber
  | string (literal : Literal)
  | sign (text : String)
  | newline
  | indent
  | dedent
  | finish
  deriving Repr, DecidableEq

/-- A word with its place. -/
structure Token where
  word : Word
  start : Position
  stop : Position
  deriving Repr, DecidableEq

/-- The reserved words. -/
def keywords : List String := [
  "False", "None", "True", "and", "as", "assert", "async", "await", "break", "class", "continue",
  "def", "del", "elif", "else", "except", "finally", "for", "from", "global", "if", "import",
  "in", "is", "lambda", "nonlocal", "not", "or", "pass", "raise", "return", "try", "while",
  "with", "yield"]

end Python
end DeclSearch
