/-
# Backends

A backend knows one kind of project.  It says which files describe a unit, compiles one
unit at a time into a handle, answers queries against the handle and lets go of it in
the end.  Everything it does may fail.
-/

import DeclSearch.Failure
import DeclSearch.NameTest
import DeclSearch.Symbol
import DeclSearch.Workspace.Walk

namespace DeclSearch

open Workspace (Path Tree Quest)

/-- The two levels on which units are looked for. -/
inductive Level where
  | solution
  | project
  deriving Repr, DecidableEq

/-- The name of a level. -/
def Level.name : Level → String
  | .solution => "solution"
  | .project => "project"

/-- What a backend says about itself: its name, the files that describe its units, the
suffixes of its sources and the folders it does not enter. -/
structure Profile where
  name : String
  solutionFiles : List String := []
  projectFiles : List String := []
  suffixes : List String := []
  excludedDirs : List String := []
  deriving Repr, DecidableEq

namespace Profile

/-- The files that describe units on a level. -/
def descriptors (p : Profile) : Level → List String
  | .solution => p.solutionFiles
  | .project => p.projectFiles

/-- Whether the backend can answer a search limited to some extensions; one without
suffixes is not restricted. -/
def covers (p : Profile) (extensions : List String) : Bool :=
  let wanted := extensions.map Text.lower
  p.suffixes.isEmpty || p.suffixes.any wanted.contains

/-- The units of a level below a root, in walking order. -/
def discover (p : Profile) (tree : Tree) (root : Path) (level : Level) : List Path :=
  let names := p.descriptors level
  (tree.walk root (Quest.of names p.excludedDirs)).filter fun path => names.contains path.name

/-- The folders that are not entered, each once and in order. -/
def sortedExcludedDirs (p : Profile) : List String :=
  p.excludedDirs.eraseDups.mergeSort fun a b => decide (a ≤ b)

end Profile

/-- A backend with handles of type `H` that finds symbols of type `S`, of which `symbol`
shows what is known to everyone; releasing a handle gives what is left of it. -/
structure Backend (H S : Type) where
  profile : Profile
  covers : List String → Except Failure Bool := fun extensions => .ok (profile.covers extensions)
  discover : Tree → Path → Level → Except Failure (List Path) := fun tree root level => do
    if profile.descriptors level ≠ [] then Failure.ofAccess root.checkNul
    return profile.discover tree root level
  compile : Tree → Path → Except Failure H
  symbol : S → Symbol
  find : H → NameTest → Except Failure (List S)
  declarations : S → Except Failure (List Location)
  references : S → H → Except Failure (List Location)
  kindOf : S → Except Failure Kind
  release : H → Except Failure H := .ok

namespace Backend

/-- The backend that can do nothing but look for its units. -/
def abstract {H : Type} (profile : Profile) : Backend H Symbol where
  profile
  compile := fun _ _ => .error .unsupported
  symbol := id
  find := fun _ _ => .error .unsupported
  declarations := fun _ => .error .unsupported
  references := fun _ _ => .error .unsupported
  kindOf := fun _ => .error .unsupported

/-- The backend for a workspace without projects: it finds no units. -/
def none {H : Type} (excludedDirs : List String) : Backend H Symbol where
  profile := { name := "none", excludedDirs }
  compile := fun _ _ => .error .noBackend
  symbol := id
  find := fun _ _ => .ok []
  declarations := fun _ => .ok []
  references := fun _ _ => .ok []
  kindOf := fun _ => .ok .symbol

end Backend
end DeclSearch
