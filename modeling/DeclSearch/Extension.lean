/-
# File extensions

The extensions a text search is limited to.  A list given by a user is normalized:
blanks around an entry are dropped, blank entries vanish, a missing leading dot is
added, and of entries that differ in letter case only the first spelling stays.  A list
with nothing left stands for the default extensions.
-/

import DeclSearch.Text.Blank
import DeclSearch.Text.Letter
import DeclSearch.Text.Pieces

namespace DeclSearch
namespace Extension

/-- The extensions searched when none are named. -/
def defaults : List String := [".cs", ".ts", ".js", ".py", ".java", ".go", ".rs", ".php"]

/-- One entry without blanks around it and with its leading dot, unless it is blank. -/
def dotted? (raw : String) : Option String :=
  match Text.trimChars raw.toList with
  | [] => none
  | '.' :: rest => some (String.ofList ('.' :: rest))
  | cs => some (String.ofList ('.' :: cs))

/-- The entries whose lower case was not seen before, in order. -/
def distinct (seen : List String) : List String → List String
  | [] => []
  | e :: rest =>
    let key := Text.lower e
    if seen.contains key then distinct seen rest else e :: distinct (key :: seen) rest

/-- The normal form of a list of extensions. -/
def normalize (raws : List String) : List String :=
  match distinct [] (raws.filterMap dotted?) with
  | [] => defaults
  | exts => exts

/-- The normal form of a list of extensions written with commas. -/
def ofCsv (csv : String) : List String := normalize (Text.cut ',' csv)

end Extension
end DeclSearch
