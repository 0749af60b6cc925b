/-
# Identifiers

A text is an identifier when its first character may start one and each further
character may continue one, by the character standard.
-/

import DeclSearch.Text.Runs
import DeclSearch.Text.IdentifierTable

namespace DeclSearch
namespace Text

/-- A character that may start an identifier. -/
def isIdentifierStart (c : Char) : Bool :=
  if c.toNat < 128 then c.isAlpha || c == '_' else inRuns c.toNat identifierStartBounds

/-- A character that may continue an identifier. -/
def isIdentifierPart (c : Char) : Bool :=
  if c.toNat < 128 then c.isAlphanum || c == '_' else inRuns c.toNat identifierPartBounds

/-- Whether the characters form an identifier. -/
def isIdentifier : List Char → Bool
  | [] => false
  | c :: rest => isIdentifierStart c && rest.all isIdentifierPart

end Text
end DeclSearch
