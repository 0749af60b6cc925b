/-
# The program

The outer layer.  It takes a snapshot of the current directory and of the variables that
settings are read from, runs the command line on them and passes the answer on.  Called
as `find-type` it is the short program, under any other name the group of commands.

A link is kept when it leads to a place in the snapshot.  A file that cannot be read and
a folder that cannot be listed are kept as locked, and one whose name no file system would
take, since it is no text, is left out.  There is no server for agents.
-/

import DeclSearch.CommandLine.Run
import DeclSearch.Workspace.Edit

namespace DeclSearch
namespace Program

open Workspace (Entry Path Tree)

/-- The variables that settings are read from. -/
def settingVariables : List String := [
  "TYPEFINDER_FILE_TYPES", "TYPEFINDER_MAX_RESULTS", "TYPEFINDER_EXCLUDE_DIRS",
  "TYPEFINDER_MAX_FILE_SIZE_MB", "TYPEFINDER_STRUCTURED", "TYPEFINDER_WORKERS",
  "TYPEFINDER_LOG_LEVEL", "TYPEFINDER_DEFAULT_PATH"]

/-- The variables that are set. -/
def environment : IO Environment := do
  let given ← settingVariables.mapM fun name => return (name, ← IO.getEnv name)
  return given.filterMap fun (name, value) => value.map (name, ·)

/-- The target to write for a link in a folder of the snapshot, if it leads to a place
below the top. -/
def targetFrom (top folder place : Path) : Option String :=
  (top.below? place).map fun names =>
    Path.render ⟨.relative, List.replicate folder.names.length ".." ++ names⟩

/-- A part of a snapshot: what stands at and below a name, each entry with the chain of names
that leads to it and a folder in front of what is in it, and the places without rights. -/
structure Part where
  placed : List (List String × Entry) := []
  locked : List (List String) := []

/-- Parts of one folder taken together. -/
def Part.join (parts : List Part) : Part :=
  ⟨parts.flatMap Part.placed, parts.flatMap Part.locked⟩

/-- What a name in a folder stands for; `top` is where the snapshot starts. -/
partial def load (top folder : Path) (found : IO.FS.DirEntry) : IO Part := do
  let path := folder.child found.fileName
  match (← found.path.symlinkMetadata).type with
  | .file =>
    try
      let content ← IO.FS.readBinFile found.path
      return { placed := [(path.names, .file content.toList)] }
    catch _ => return { placed := [(path.names, .file [])], locked := [path.names] }
  | .dir =>
    let made := (path.names, Entry.folder [])
    try
      let inner := Part.join (← (← found.path.readDir).toList.mapM (load top path))
      return { inner with placed := made :: inner.placed }
    catch _ => return { placed := [made], locked := [path.names] }
  | .symlink =>
    try
      let place := Path.ofString (← IO.FS.realPath found.path).toString
      let target := targetFrom top folder place
      return { placed := (target.map fun t => (path.names, Entry.link t)).toList }
    catch _ => return {}
  | .other => return {}

/-- A snapshot of the current directory. -/
def snapshot : IO Tree := do
  let here ← IO.currentDir
  let top := Path.ofString (← IO.FS.realPath here).toString
  let part := Part.join (← (← here.readDir).toList.mapM (load top Path.here))
  let tree := part.placed.foldl (fun t (names, e) => t.placing names e) Tree.empty
  return { tree with locked := part.locked }

/-- Which of the two programs this is. -/
def entry : IO CommandLine.Entry := do
  return if (← IO.appPath).fileName = some "find-type" then .findType else .main

end Program
end DeclSearch

open DeclSearch in
/-- Answers a command line from the current directory. -/
def main (words : List String) : IO UInt32 := do
  let entry ← Program.entry
  let tree ← Program.snapshot
  match CommandLine.run entry (← Program.environment) tree false words with
  | .error failure =>
    IO.eprintln (failure.name ++ ": " ++ failure.message)
    return 1
  | .ok answer =>
    IO.print answer.out
    IO.eprint answer.err
    return answer.exitCode.toUInt32
