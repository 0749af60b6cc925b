/-
# Requests

One search to be run.  A request can only be built around a query that is not blank and
a positive number of results to show, and its extensions are always in normal form.
-/

import DeclSearch.Settings
import DeclSearch.NameTest
import DeclSearch.Workspace.Path

namespace DeclSearch

open Workspace (Path)

/-- A search to be run. -/
structure Request where
  root : Path
  query : String
  exact : Bool
  caseSensitive : Bool
  extensions : List String
  maxResults : Int
  references : Bool
  query_not_blank : Text.allBlank query = false
  maxResults_pos : 0 < maxResults
  deriving Repr, DecidableEq

namespace Request

/-- A request, unless its query is blank or it would show nothing.  The query is looked
at first. -/
def build (root : Path) (query : String) (exact caseSensitive : Bool) (extensions : List String)
    (maxResults : Int) (references : Bool) : Except SettingsError Request :=
  if hq : Text.allBlank query = false then
    if hn : 0 < maxResults then
      .ok ⟨root, query, exact, caseSensitive, Extension.normalize extensions, maxResults,
        references, hq, hn⟩
    else .error (.maxResults maxResults)
  else .error .blankQuery

/-- The test that a name has to pass. -/
def nameTest (r : Request) : NameTest := ⟨r.query, r.exact, r.caseSensitive⟩

end Request
end DeclSearch
