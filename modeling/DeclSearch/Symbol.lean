/-
# Symbols

A named declaration of an analysed unit, and a place in a source file.  A line counts
from one, a column from zero.
-/

import DeclSearch.Kind

namespace DeclSearch

/-- A place in a source file. -/
structure Location where
  file : String
  line : Int
  column : Int
  deriving Repr, DecidableEq

/-- A named declaration.  The category is the backend's own word for what is declared. -/
structure Symbol where
  name : String
  qualifiedName : String
  category : String
  location : Location
  bases : List String := []
  decorators : List String := []
  deriving Repr, DecidableEq

end DeclSearch
