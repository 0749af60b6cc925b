/-
# Matches

One place that a search found: the file, the line, the name it is reported under, what
it is, and the lines around it.
-/

import DeclSearch.Kind
import DeclSearch.Text.Json

namespace DeclSearch

/-- A place that a search found. -/
structure Match where
  file : String
  line : Int
  name : String
  kind : Kind
  context : String
  deriving Repr, DecidableEq

namespace Match

/-- What two reports of one declaration have in common. -/
structure Site where
  file : String
  line : Int
  kind : Kind
  deriving Repr, DecidableEq

/-- The site of a match. -/
def site (m : Match) : Site := ⟨m.file, m.line, m.kind⟩

/-- A match as a JSON object. -/
def toJson (m : Match) : Text.Json := .object [
  ("file_path", .text m.file), ("line_number", .number m.line), ("type_name", .text m.name),
  ("kind", .text m.kind.text), ("context", .text m.context)]

end Match
end DeclSearch
