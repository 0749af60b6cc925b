/-
# Running a command line

A command line is answered by an exit code and two texts.  Everything that a search says
goes to the first text: warnings as they come, unless the report is JSON and carries them
itself, then the report or the failure.  Complaints about the command line go to the
second text.  Serving agents is left to others; the answer only names the transport.
Neither text is meant for a terminal, so control sequences are taken out of both.
-/

import DeclSearch.Backend.BuiltIn
import DeclSearch.Client
import DeclSearch.CommandLine.Arguments
import DeclSearch.CommandLine.Commands
import DeclSearch.CommandLine.Help
import DeclSearch.Text.Plain
import DeclSearch.Text.Word

namespace DeclSearch
namespace CommandLine

/-- What a command line is answered by. -/
structure Answer where
  exitCode : Nat := 0
  out : String := ""
  err : String := ""
  served : List String := []
  deriving Repr, DecidableEq

namespace Answer

/-- The answer of a command that has something to say. -/
def saying (text : String) : Answer := { out := text ++ "\n" }

/-- The answer to words that make no command line. -/
def complaining (c : Command) (complaint : Complaint) : Answer :=
  { exitCode := 1, err := complaint.report c }

/-- The answer of a search that failed behind some lines of output. -/
def failing (lines : List String) (message : String) : Answer :=
  { exitCode := 1, out := String.join (lines.map (· ++ "\n")) ++ "Error: " ++ message ++ "\n" }

/-- An answer without control sequences. -/
def plain (a : Answer) : Answer := { a with out := Text.plain a.out, err := Text.plain a.err }

end Answer

/-- What a search is asked for on a command line. -/
structure SearchOrder where
  arguments : SearchArguments
  overrides : Settings → Settings.Overrides
  format : ReportFormat

/-- The order that the arguments of a search make for a workspace. -/
def SearchOrder.ofArguments (workspace query : String) (a : Arguments) : SearchOrder where
  arguments := {
    workspace
    query
    exact := a.isOn "--exact-match"
    caseSensitive := a.isOn "--case-sensitive"
    fileTypes := match a.text? "--file-types" with
      | none | some "" => []
      | some csv => Extension.ofCsv csv
    maxResults := a.number? "--max-results"
    references := a.isOn "--include-references" }
  overrides := fun settings => {
    showProgress := some (a.isOn "--progress")
    backend := a.text? "--structured"
    maxWorkers := a.number? "--workers"
    excludedDirs := some (settings.excludedDirs ++ a.texts "--exclude-dir") }
  format := ((a.text? "--format").bind ReportFormat.ofName?).getD .console

/-- The client that a search order is given to. -/
def SearchOrder.client (o : SearchOrder) (env : Environment) :
    Except SettingsError (Client Python.Project Symbol (List String)) := do
  let base ← Settings.ofEnvironment env
  let settings := base.override (o.overrides base)
  settings.check
  let backend ← BuiltIn.choose none settings
  Client.build settings backend (if o.format = .json then Sink.collecting else Sink.echoing)

/-- Runs a search order. -/
def SearchOrder.run (o : SearchOrder) (env : Environment) (tree : Workspace.Tree) : Answer :=
  match o.client env with
  | .error e => .failing [] e.message
  | .ok client =>
    let (result, record) := Run.start (client.search tree o.arguments) []
    let lines := if o.format = .json then [] else record.sink
    match result with
    | .error failure => .failing lines failure.message
    | .ok outcome => .saying (Text.join "\n" (lines ++ [o.format.render outcome]))

/-- The name and the version of the program. -/
def versionText : String := "typefinder, version " ++ version

/-- What is said when agents cannot be served. -/
def noServer : String :=
  "Error: MCP dependencies not installed.\nInstall with:  pip install 'typefinder[mcp]'\n"

/-- Starts serving agents, if that can be done. -/
def serve (env : Environment) (canServe : Bool) (a : Arguments) : Except Failure Answer := do
  let settings ← (Settings.ofEnvironment env).mapError Failure.settings
  if !canServe then return { exitCode := 1, err := noServer }
  settings.check.mapError Failure.settings
  return { served := [(a.text? "--transport").getD "stdio"] }

/-- Answers the words behind the name of a command, given how to run it. -/
def answerFor (c : Command) (run : Arguments → Except Failure Answer) (words : List String) :
    Except Failure Answer :=
  match c.wish words with
  | .error complaint => .ok (.complaining c complaint)
  | .ok .help => .ok (.saying (Help.text c []))
  | .ok .version => .ok (.saying versionText)
  | .ok (.run a) => run a

/-- The help on the group of commands. -/
def groupHelp : Answer :=
  .saying (Help.text mainGroup (commandNames.map fun (name, c) => (name, c.summary)))

/-- Whether a word that is no command looks like a switch. -/
def looksLikeSwitch (word : String) : Bool :=
  match word.toList with
  | [] => false
  | c :: _ => !Text.isWord c || c = '_'

/-- Answers the words behind the name of the group. -/
def runGroup (env : Environment) (tree : Workspace.Tree) (canServe : Bool)
    (words : List String) : Except Failure Answer :=
  if words.isEmpty then .ok groupHelp
  else match mainGroup.wish words with
    | .error complaint => .ok (.complaining mainGroup complaint)
    | .ok .help => .ok groupHelp
    | .ok .version => .ok (.saying versionText)
    | .ok (.run a) =>
      match a.words with
      | [] => .ok (.complaining mainGroup .noCommand)
      | "search" :: rest =>
        answerFor searchCommand (fun a => .ok ((SearchOrder.ofArguments
          (a.words.getD 0 "") (a.words.getD 1 "") a).run env tree)) rest
      | "mcp" :: rest => answerFor serveCommand (serve env canServe) rest
      | word :: _ =>
        .ok (if looksLikeSwitch word then groupHelp
          else .complaining mainGroup (.noSuchCommand word))

/-- Answers the words behind the name of the short program. -/
def runFindType (env : Environment) (tree : Workspace.Tree) (words : List String) :
    Except Failure Answer :=
  answerFor findTypeCommand (fun a => .ok ((SearchOrder.ofArguments
    ((a.text? "--workspace").getD ".") (a.words.getD 0 "") a).run env tree)) words

/-- The two programs. -/
inductive Entry where
  | main
  | findType
  deriving Repr, DecidableEq

/-- Answers a command line; only settings of the environment that cannot be used when
serving agents make it fail. -/
def run (entry : Entry) (env : Environment) (tree : Workspace.Tree) (canServe : Bool)
    (words : List String) : Except Failure Answer :=
  Answer.plain <$> match entry with
    | .main => runGroup env tree canServe words
    | .findType => runFindType env tree words

end CommandLine
end DeclSearch
