/-
# Code pages

Reading octets in a single-byte encoding that agrees with ASCII in its lower half.
-/

import DeclSearch.Text.CodePageTable

namespace DeclSearch
namespace Text
namespace CodePage

/-- The character of an octet, unless it has none. -/
def char? (first : Nat) (letters : Array Char) (octet : Char) : Option Char :=
  if octet.toNat < first then some octet
  else letters[octet.toNat - first]?.filter (· ≠ '\ufffd')

/-- The characters of some octets, unless one of them has none. -/
def chars? (p : CodePage) (octets : List Char) : Option (List Char) :=
  octets.mapM (char? p.first p.letters.toList.toArray)

end CodePage
end Text
end DeclSearch
