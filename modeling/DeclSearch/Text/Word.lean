/-
# Word characters and word boundaries

A word character is a letter, a digit or other numeric character of any script, or the
underscore.  A boundary lies between two neighbours of which exactly one is a word
character; the ends of a text count as non-word neighbours.
-/

import DeclSearch.Text.Runs
import DeclSearch.Text.WordTable

namespace DeclSearch
namespace Text

/-- A letter, a numeric character or the underscore. -/
def isWord (c : Char) : Bool :=
  let n := c.toNat
  if n < 128 then c.isAlphanum || c == '_' else inRuns n wordBounds

/-- Whether a word boundary lies between two neighbours, `none` being an end of the text. -/
def isBoundary (before after : Option Char) : Bool := before.any isWord != after.any isWord

end Text
end DeclSearch
