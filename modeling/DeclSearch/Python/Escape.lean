/-
# Escapes in string literals

Which literals can be read.  A literal has to be UTF-8, a bytes literal has to be ASCII,
and the escapes that name a character by digits or by its name have to be complete.
-/

import DeclSearch.Python.Number
import DeclSearch.Python.Token
import DeclSearch.Text.CharacterName
import DeclSearch.Text.Octets

namespace DeclSearch
namespace Python

namespace Literal

/-- Whether the literal is one of bytes. -/
def isBytes (l : Literal) : Bool := l.letters.contains 'b'

/-- Whether backslashes stand for themselves in the literal. -/
def isRaw (l : Literal) : Bool := l.letters.contains 'r'

/-- Whether the literal has replacement fields. -/
def isFormat (l : Literal) : Bool := l.letters.contains 'f'

end Literal

namespace Escape

/-- Whether a text starts with `n` hexadecimal digits. -/
def startsHex (n : Nat) (cs : List Char) : Bool :=
  (cs.take n).length == n && (cs.take n).all Number.isHex

/-- The value of a hexadecimal digit. -/
def hexValue (c : Char) : Nat :=
  if c.isDigit then c.toNat - '0'.toNat else c.toLower.toNat - 'a'.toNat + 10

/-- The number that hexadecimal digits write. -/
def hexNumber (cs : List Char) : Nat := cs.foldl (fun n c => 16 * n + hexValue c) 0

/-- Whether a text starts with the name of a character in braces. -/
def startsNamed : List Char → Bool
  | '\x7b' :: rest =>
    let name := rest.takeWhile (· ≠ '\x7d')
    name.length < rest.length && Text.isCharacterName name
  | _ => false

/-- Whether an escape of a text literal is complete, given what follows its letter. -/
def isComplete (letter : Char) (rest : List Char) : Bool :=
  if letter = 'x' then startsHex 2 rest
  else if letter = 'u' then startsHex 4 rest
  else if letter = 'U' then startsHex 8 rest && decide (hexNumber (rest.take 8) ≤ 0x10FFFF)
  else if letter = 'N' then startsNamed rest
  else true

/-- Whether all escapes of a text are complete, as `complete` tells. -/
def allComplete (complete : Char → List Char → Bool) : List Char → Bool
  | '\\' :: letter :: rest => complete letter rest && allComplete complete rest
  | _ :: rest => allComplete complete rest
  | [] => true

/-- Whether the octets can be the text of a literal. -/
def isText (raw : Bool) (octets : List Char) : Bool :=
  (Text.charsOf? octets).isSome && (raw || allComplete isComplete octets)

/-- Whether the octets can be the content of a bytes literal. -/
def isByteString (raw : Bool) (octets : List Char) : Bool :=
  !octets.any Text.isHigh &&
    (raw || allComplete (fun letter rest => letter ≠ 'x' || startsHex 2 rest) octets)

end Escape
end Python
end DeclSearch
