/-
# Outcomes

What a search found: every match in order, the strategy that found them and the warnings
on the way.  An outcome is never cut short; only `displayed` obeys the number of results
that the request asks to be shown.
-/

import DeclSearch.Match
import DeclSearch.Request

namespace DeclSearch

/-- What a search found. -/
structure Outcome where
  request : Request
  results : List Match
  strategy : String
  warnings : List String
  deriving Repr, DecidableEq

namespace Outcome

/-- The matches that are shown. -/
def displayed (o : Outcome) : List Match := o.results.take o.request.maxResults.toNat

/-- How many matches are not shown. -/
def hiddenCount (o : Outcome) : Nat := o.results.length - o.displayed.length

/-- An outcome as a JSON object. -/
def toJson (o : Outcome) : Text.Json := .object [
  ("query", .text o.request.query),
  ("workspace", .text o.request.root.render),
  ("strategy", .text o.strategy),
  ("total_count", .number o.results.length),
  ("shown", .number o.displayed.length),
  ("results", .array (o.displayed.map Match.toJson)),
  ("warnings", .array (o.warnings.map .text))]

end Outcome
end DeclSearch
