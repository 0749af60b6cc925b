/-
# The commands of the program

Two programs share one set of switches for searching: `typefinder` is a group with a
command to search and one to serve agents, and `find-type` searches the current folder
unless it is told otherwise.
-/

import DeclSearch.CommandLine.Command
import DeclSearch.Report
import DeclSearch.Settings

namespace DeclSearch
namespace CommandLine

/-- The switch that asks for help. -/
def helpSwitch : Switch where
  names := ["--help"]
  operand := .nothing
  summary := "Show this message and exit."
  purpose := .help

/-- The switch that asks for the version. -/
def versionSwitch : Switch where
  names := ["--version"]
  operand := .nothing
  summary := "Show the version and exit."
  purpose := .version

/-- The switches of a search. -/
def searchSwitches : List Switch := [
  { names := ["--exact-match"], operand := .nothing,
    summary := "Report only declarations whose name equals QUERY." },
  { names := ["--case-sensitive"], operand := .nothing,
    summary := "Compare names ordinally instead of ignoring case." },
  { names := ["--file-types"], operand := .text "CSV",
    summary := "Comma-separated extensions to search (default: " ++
      Text.join "," Extension.defaults ++ ")." },
  { names := ["--max-results"], operand := .positive,
    summary := "Maximum number of results to print (default: 50)." },
  { names := ["--include-references"], operand := .nothing,
    summary := "Also report usages when a project model is available." },
  { names := ["-f", "--format"], operand := .choice (ReportFormat.all.map ReportFormat.name),
    summary := "Output format." },
  { names := ["--structured"], operand := .choice Settings.backends,
    summary := "Structured backend (default: $TYPEFINDER_STRUCTURED or 'python')." },
  { names := ["--exclude-dir"], operand := .text "TEXT", isRepeatable := true,
    summary := "Directory name to skip while walking (repeatable)." },
  { names := ["--workers"], operand := .positive,
    summary := "Threads used to read files and compile units." },
  { names := ["--progress"], operand := .nothing,
    summary := "Show a progress bar on stderr." },
  { names := ["-v", "--verbose"], operand := .nothing,
    summary := "Enable debug logging." }]

/-- The command that searches a workspace. -/
def searchCommand : Command where
  call := "typefinder search"
  summary := "Search WORKSPACE for types named (or containing) QUERY."
  parameters := ["WORKSPACE", "QUERY"]
  switches := searchSwitches ++ [helpSwitch]

/-- The command that searches the current folder. -/
def findTypeCommand : Command where
  call := "find-type"
  summary := "Find QUERY in the current (or --workspace) directory."
  parameters := ["QUERY"]
  switches :=
    { names := ["--workspace"], operand := .text "TEXT",
      summary := "Workspace root to search.  [default: .]" } :: searchSwitches ++ [helpSwitch]

/-- The ways in which agents can be served. -/
def transports : List String := ["stdio", "sse"]

/-- The command that serves agents. -/
def serveCommand : Command where
  call := "typefinder mcp"
  summary := "Start the typefinder MCP server for agent integration."
  parameters := []
  switches := [
    { names := ["--transport"], operand := .choice transports,
      summary := "MCP transport (default: stdio)." },
    { names := ["-v", "--verbose"], operand := .nothing }, helpSwitch]

/-- The group of commands. -/
def mainGroup : Command where
  call := "typefinder"
  summary := "typefinder: locate type declarations and usages across a source tree."
  parameters := []
  switches := [versionSwitch, helpSwitch]
  isGroup := true

/-- The names of the commands of the group. -/
def commandNames : List (String × Command) := [("mcp", serveCommand), ("search", searchCommand)]

end CommandLine
end DeclSearch
