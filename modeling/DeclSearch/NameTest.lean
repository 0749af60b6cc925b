/-
# Testing names

Whether a name is the one sought: equal to the query in exact mode, containing it
otherwise.  Where case is ignored both sides are lower-cased as whole texts.
-/

import DeclSearch.Text.Letter
import DeclSearch.Text.Pieces

namespace DeclSearch

/-- What a name is compared with, and how. -/
structure NameTest where
  query : String
  exact : Bool
  caseSensitive : Bool
  deriving Repr, DecidableEq

/-- Whether a name passes the test. -/
def NameTest.accepts (t : NameTest) (candidate : String) : Bool :=
  let fold (s : String) : List Char :=
    if t.caseSensitive then s.toList else Text.lowerChars s.toList
  if t.exact then fold candidate == fold t.query
  else Text.occursIn (fold t.query) (fold candidate)

end DeclSearch
