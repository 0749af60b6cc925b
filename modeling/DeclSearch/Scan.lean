/-
# Scanning lines

How a text search goes through the lines of one file.  In exact mode a line counts when
it declares the name in one of the six shapes, otherwise when it contains the query; a
line gives at most one match, with the line around it as context.
-/

import DeclSearch.Outcome
import DeclSearch.Preview
import DeclSearch.Shape

namespace DeclSearch
namespace Scan

/-- The kind under which a line is reported, if it counts. -/
def kindOfLine? (r : Request) (line : String) : Option Kind :=
  if r.exact then Shape.classify line r.query r.caseSensitive
  else if NameTest.accepts ⟨r.query, false, r.caseSensitive⟩ line then some (LineKind.ofLine line)
  else none

/-- The match that a line gives, if it counts. -/
def match? (r : Request) (file : String) (lines : List String) (line : String) (index : Nat) :
    Option Match :=
  (kindOfLine? r line).map fun kind =>
    ⟨file, index + 1, r.query, kind, Preview.text lines index⟩

/-- The matches in the lines of a file. -/
def scanLines (r : Request) (file : String) (lines : List String) : List Match :=
  lines.zipIdx.filterMap fun (line, index) => match? r file lines line index

end Scan
end DeclSearch
