/-
# The kind of a line

A line of text is classified by the first keyword of a fixed list that occurs in it,
anywhere and in exactly this spelling; comments and strings count like everything else.
-/

import DeclSearch.Kind
import DeclSearch.Text.Pieces

namespace DeclSearch
namespace LineKind

/-- The keywords, each with the blank behind it, in order of precedence. -/
def keywords : List (String × Kind) := [
  ("class ", .classDecl), ("interface ", .interface), ("struct ", .struct), ("enum ", .enum),
  ("record ", .record), ("type ", .type), ("typedef ", .typedef), ("function ", .function),
  ("def ", .function), ("func ", .function)]

/-- The kind of a line. -/
def ofLine (line : String) : Kind :=
  ((keywords.find? fun k => Text.occurs k.1 line).map (·.2)).getD .reference

end LineKind
end DeclSearch
