/-
# Text search

The search that needs no project: every candidate file below the root is read and
scanned on its own, in walking order.  A file that is too large, cannot be read or is
binary costs one warning and nothing else.
-/

import DeclSearch.Scan
import DeclSearch.Workspace.Walk

namespace DeclSearch

open Workspace (Path Tree Quest AccessError SourceError)

/-- Why a candidate file was not scanned. -/
inductive ScanFault where
  | tooLarge (limitMb : Int)
  | source (e : SourceError)
  deriving Repr, DecidableEq

/-- The wording of the reason why a file was not scanned. -/
def ScanFault.message : ScanFault → String
  | .tooLarge limitMb => "larger than " ++ toString limitMb ++ "MB"
  | .source e => e.message

namespace TextSearch

/-- Whether the file that a path leads to is above the size limit of the settings. -/
def tooLarge (settings : Settings) (tree : Tree) (path : Path) : Except AccessError Bool :=
  if settings.maxFileSizeBytes = 0 then .ok false
  else (tree.size path).map fun (size : Nat) => decide (settings.maxFileSizeBytes < size)

/-- The lines of a candidate file, unless it is not to be scanned. -/
def candidateLines (settings : Settings) (tree : Tree) (path : Path) :
    Except ScanFault (List String) :=
  match tooLarge settings tree path with
  | .error e => .error (.source (.access e))
  | .ok true => .error (.tooLarge settings.maxFileSizeMb)
  | .ok false =>
    match tree.readLines path with
    | .error e => .error (.source e)
    | .ok lines => .ok lines

/-- The matches in a candidate file. -/
def scanFile (settings : Settings) (tree : Tree) (r : Request) (path : Path) :
    Except ScanFault (List Match) :=
  (candidateLines settings tree path).map (Scan.scanLines r path.render)

/-- The files that a request is to be answered from. -/
def candidates (settings : Settings) (tree : Tree) (r : Request) : List Path :=
  tree.walk r.root (Quest.of r.extensions settings.excludedDirs)

/-- The warning about a file that was not scanned. -/
def warning (path : Path) (fault : ScanFault) : String :=
  "Could not search file " ++ path.render ++ ": " ++ fault.message

end TextSearch
end DeclSearch
