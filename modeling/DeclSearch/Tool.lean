/-
# The agent tool

What an agent is offered: a tool that answers a search with a JSON text, failures
included, and the list of the kinds that matches can have.  The workspace `.` stands for
a default path where the environment names one.
-/

import DeclSearch.Client
import DeclSearch.Report

namespace DeclSearch
namespace Tool

/-- The name under which the tool is served. -/
def serverName : String := "typefinder"

/-- The workspace that a path stands for. -/
def resolvePath (env : Environment) (path : String) : String :=
  if path = "." then
    match Text.trim ((env.get? "TYPEFINDER_DEFAULT_PATH").getD "") with
    | "" => path
    | default => default
  else path

/-- The answer that a failure gives. -/
def failureText (f : Failure) : String :=
  (Text.Json.object [("error", .text f.message), ("results", .array [])]).renderLine

/-- Answers a search with a JSON text. -/
def answer {H S σ : Type} (client : Client H S σ) (env : Environment) (tree : Workspace.Tree)
    (sink : σ) (a : SearchArguments) : String :=
  match (Run.start (client.search tree { a with workspace := resolvePath env a.workspace })
      sink).1 with
  | .ok outcome => Report.json outcome
  | .error failure => failureText failure

/-- The words for the kinds that matches can have, as a JSON text. -/
def kinds : String := (Text.Json.array (Kind.all.map fun k => .text k.text)).renderLine

end Tool
end DeclSearch
