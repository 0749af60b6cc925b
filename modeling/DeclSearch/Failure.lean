/-
# Failures

Everything that can go wrong in a search, by cause.  Each failure has a wording and a
name; where a failure is reported and has no wording, its name is shown instead.
A backend from outside may fail in ways of its own, with a name and a wording of its own;
there asking for the wording may fail once more, and then nothing can be reported.
-/

import DeclSearch.Settings
import DeclSearch.Workspace.Source

namespace DeclSearch

open Workspace (AccessError SourceError Path)

/-- Why an operation failed. -/
inductive Failure where
  | settings (e : SettingsError)
  | noWorkspace (root : Path)
  | malformed (descriptor reason : String)
  | noBackend
  | binary
  | access (e : AccessError)
  | outOfRange (index : Int) (count : Nat)
  | noWorkers
  | unknownKind (word : String)
  | notBelow (path root : Path)
  | unnamed (path : Path)
  | unsupported
  | brokenParser
  | foreign (name text : String)
  | wordless (name : String) (why : Failure)
  deriving Repr, DecidableEq

namespace Failure

/-- A failure to read a file as text. -/
def ofSource : SourceError → Failure
  | .access e => .access e
  | .binary => .binary

/-- What came of an access to a path. -/
def ofAccess {α : Type} : Except AccessError α → Except Failure α
  | .ok a => .ok a
  | .error e => .error (.access e)

/-- The wording of a failure. -/
def message : Failure → String
  | .settings e => e.message
  | .noWorkspace root => "Workspace path '" ++ root.render ++ "' does not exist."
  | .malformed descriptor reason => "malformed project file " ++ descriptor ++ ": " ++ reason
  | .noBackend => "no structured backend is configured"
  | .binary => "binary content"
  | .access e => e.message
  | .outOfRange index count =>
    "target_index " ++ toString index ++ " out of range for " ++ toString count ++ " lines"
  | .noWorkers => "max_workers must be greater than 0"
  | .unknownKind word => Text.quoted word ++ " is not a valid SymbolKind"
  | .notBelow path root =>
    Text.quoted path.render ++ " is not in the subpath of " ++
      Text.quoted (if root = Path.here then "" else root.render) ++
      " OR one path is relative and the other is absolute."
  | .unnamed path => "PosixPath(" ++ Text.quoted path.render ++ ") has an empty name"
  | .brokenParser => "Negative size passed to PyUnicode_New"
  | .unsupported | .wordless _ _ => ""
  | .foreign _ text => text

/-- The name of an access failure. -/
def accessName : Workspace.Fault → String
  | .notFound => "FileNotFoundError"
  | .refused => "PermissionError"
  | .notAFolder => "NotADirectoryError"
  | .isAFolder => "IsADirectoryError"
  | .nameTooLong | .tooManyLinks => "OSError"
  | .nulInPath => "ValueError"

/-- The name of a failure. -/
def name : Failure → String
  | .settings _ => "ConfigError"
  | .noWorkspace _ => "WorkspaceNotFoundError"
  | .malformed _ _ | .noBackend => "StructuredIndexError"
  | .binary => "BinaryFileError"
  | .access e => accessName e.fault
  | .outOfRange _ _ => "IndexError"
  | .noWorkers | .unknownKind _ | .notBelow _ _ | .unnamed _ => "ValueError"
  | .unsupported => "NotImplementedError"
  | .brokenParser => "SystemError"
  | .foreign name _ | .wordless name _ => name

/-- What a report says about a failure: its wording, or its name when that is empty. -/
def shown (f : Failure) : String := if f.message = "" then f.name else f.message

/-- The report of a failure, unless asking for its wording fails. -/
def report : Failure → Except Failure String
  | .wordless _ why => .error why
  | f => .ok f.shown

/-- What came of something that was tried: its result, or the report of its failure. -/
def settle {α : Type} : Except Failure α → Except Failure (Except String α)
  | .ok a => .ok (.ok a)
  | .error f => f.report.map .error

end Failure
end DeclSearch
