/-
# Reports

The four texts in which an outcome can be shown: blocks of labelled lines, JSON, one line
per match in the style of a search tool, and one line per match in the style of a
compiler.  Each shows the displayed matches only and, except for JSON, ends with a
trailer when some are hidden; an outcome without matches is one sentence.
-/

import DeclSearch.Outcome

namespace DeclSearch
namespace Report

/-- The sentence that says that nothing was found. -/
def nothing (o : Outcome) : String :=
  "No types found matching '" ++ o.request.query ++ "' in workspace '" ++
    o.request.root.render ++ "'"

/-- The line that counts the hidden matches, if there are any. -/
def trailer (o : Outcome) : List String :=
  if o.hiddenCount = 0 then []
  else ["... and " ++ toString o.hiddenCount ++ " more results (use --max-results to see more)"]

/-- The lines of one match in the labelled report. -/
def consoleBlock (m : Match) : List String := [
  "File: " ++ m.file, "Line: " ++ toString m.line, "Type: " ++ m.name, "Kind: " ++ m.kind.text,
  "Context: " ++ m.context, ""]

/-- The report as blocks of labelled lines. -/
def console (o : Outcome) : String :=
  if o.results.isEmpty then nothing o
  else Text.join "\n" (
    ["Found " ++ toString o.results.length ++ " result(s) for type '" ++ o.request.query ++ "':",
      ""] ++ o.displayed.flatMap consoleBlock ++ trailer o)

/-- The report as JSON over several lines. -/
def json (o : Outcome) : String := o.toJson.render

/-- A report with one line per match. -/
def lineByLine (line : Match → String) (o : Outcome) : String :=
  if o.results.isEmpty then nothing o
  else Text.join "\n" (o.displayed.map line ++ trailer o)

/-- The report in the style of a search tool. -/
def compact : Outcome → String := lineByLine fun m =>
  m.file ++ ":" ++ toString m.line ++ "  " ++ m.name ++ "  [" ++ m.kind.text ++ "]"

/-- The report in the style of a compiler. -/
def ide : Outcome → String := lineByLine fun m =>
  m.file ++ "(" ++ toString m.line ++ "): " ++ m.name ++ " [" ++ m.kind.text ++ "]"

end Report

/-- A text in which an outcome can be shown. -/
inductive ReportFormat where
  | console
  | json
  | compact
  | ide
  deriving Repr, DecidableEq

namespace ReportFormat

/-- All formats, in the order in which they are listed to users. -/
def all : List ReportFormat := [.console, .json, .compact, .ide]

/-- The name of a format. -/
def name : ReportFormat → String
  | .console => "console"
  | .json => "json"
  | .compact => "compact"
  | .ide => "ide"

/-- The format with a name. -/
def ofName? (s : String) : Option ReportFormat := all.find? fun f => f.name == s

/-- An outcome in a format. -/
def render : ReportFormat → Outcome → String
  | .console => Report.console
  | .json => Report.json
  | .compact => Report.compact
  | .ide => Report.ide

end ReportFormat
end DeclSearch
