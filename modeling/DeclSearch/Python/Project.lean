/-
# Projects

A unit is the folder of a file that describes it.  Compiling a unit checks that file,
parses every source file below the folder and collects the symbols; a source file that
cannot be read or is malformed is skipped, but one over which the parser breaks down ends
the compilation.  The backend answers queries from the symbols and the parsed modules.
-/

import DeclSearch.Backend.Basic
import DeclSearch.Descriptor.Check
import DeclSearch.Python.Declarations
import DeclSearch.Python.Mentions

namespace DeclSearch
namespace Python

open Workspace (Path Tree Quest)

/-- A compiled unit. -/
structure Project where
  unit : Path
  root : Path
  modules : List Module
  symbols : List Symbol
  skipped : List Path
  deriving Repr

/-- The folders that hold no sources of a project. -/
def skippedDirs : List String := [
  "__pycache__", ".git", ".hg", ".svn", ".venv", "venv", ".tox", ".nox", ".mypy_cache",
  ".pytest_cache", "build", "dist", "node_modules"]

/-- What the backend says about itself. -/
def profile (excludedDirs : List String) : Profile where
  name := "python"
  solutionFiles := ["pyproject.toml"]
  projectFiles := ["setup.py", "setup.cfg"]
  suffixes := [".py"]
  excludedDirs := excludedDirs ++ skippedDirs

namespace Project

/-- The module in a source file, unless it cannot be read or is malformed. -/
def parse? (tree : Tree) (root file : Path) : Except Failure (Option Module) :=
  match tree.read file with
  | .error _ => .ok none
  | .ok content =>
    match parse content with
    | .error .malformed => .ok none
    | .error .internal => .error .brokenParser
    | .ok body => do return some ⟨file, ← Module.nameOf root file, body, content.isEmpty⟩

/-- The unit that a file describes. -/
def compile (excludedDirs : List String) (tree : Tree) (unit : Path) : Except Failure Project := do
  Descriptor.check tree unit
  let root := unit.parent
  let files ← Failure.ofAccess (tree.walkFiles root (Quest.of [".py"] excludedDirs))
  let parsed ← files.mapM fun file => do return (file, ← parse? tree root file)
  let modules := parsed.filterMap Prod.snd
  return {
    unit
    root
    modules
    symbols := modules.flatMap Module.declarations
    skipped := (parsed.filter fun entry => entry.2.isNone).map Prod.fst }

/-- The symbols whose names pass a test. -/
def find (p : Project) (test : NameTest) : List Symbol :=
  p.symbols.filter fun s => test.accepts s.name

/-- The locations where a unit mentions a symbol's name, without the symbol's own. -/
def references (p : Project) (s : Symbol) : List Location :=
  p.modules.flatMap fun m => m.references s

/-- What is left of a unit that was let go. -/
def release (p : Project) : Project := { p with modules := [], symbols := [] }

end Project

/-- The backend for projects. -/
def backend (excludedDirs : List String) : Backend Project Symbol where
  profile := profile excludedDirs
  compile := Project.compile (profile excludedDirs).excludedDirs
  symbol := id
  find := fun p test => .ok (p.find test)
  declarations := fun s => .ok [s.location]
  references := fun s p => .ok (p.references s)
  kindOf := fun s => .ok (kindOf s)
  release := fun p => .ok p.release

end Python
end DeclSearch
