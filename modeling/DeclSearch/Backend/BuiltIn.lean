/-
# Built-in backends

The backends that come with the program: the one for projects, and one for workspaces
without any.  A backend is chosen by name, in any letter case; without a name the
settings say which one it is.  It does not enter the folders that the settings exclude.
-/

import DeclSearch.Python.Project
import DeclSearch.Settings

namespace DeclSearch

/-- The backends that come with the program. -/
inductive BuiltIn where
  | projects
  | nothing
  deriving Repr, DecidableEq

namespace BuiltIn

/-- The backend of a name. -/
def ofName? : String → Option BuiltIn
  | "python" => some .projects
  | "none" => some .nothing
  | _ => none

/-- The backend itself. -/
def backend (excludedDirs : List String) : BuiltIn → Backend Python.Project Symbol
  | .projects => Python.backend excludedDirs
  | .nothing => Backend.none excludedDirs

/-- The backend of a name, or the one that the settings name. -/
def choose (name : Option String) (settings : Settings) :
    Except SettingsError (Backend Python.Project Symbol) :=
  let given := name.getD ""
  let wanted := Text.lower (if given = "" then settings.backend else given)
  match ofName? wanted with
  | some built => .ok (built.backend settings.excludedDirs)
  | none => .error (.noSuchBackend wanted)

end BuiltIn
end DeclSearch
