/-
# Walking a workspace

The candidate files below a root: those whose name ends, ignoring case, with one of the
wanted suffixes.  In every folder its files come first, by name, and then its
subfolders, by name.  A folder that is excluded by name or cannot be listed is passed
over; a link is never entered, but a link that leads to a file counts as one.  The root
may itself be a link or carry an excluded name.

A folder on the way is listed by its path from the current directory, and so is a link
followed: both fail where that path is too long.  A walk from the current directory
itself writes `./` in front of every path, which is two bytes more.
-/

import DeclSearch.Text.Letter
import DeclSearch.Workspace.Tree

namespace DeclSearch
namespace Workspace

/-- What a walk looks for: the lower-cased suffixes of a candidate's name, and the names
of folders that are not entered. -/
structure Quest where
  suffixes : List (List Char)
  excluded : List String
  deriving Repr

/-- The quest for files with one of these suffixes in any letter case. -/
def Quest.of (suffixes excluded : List String) : Quest :=
  ⟨suffixes.map fun s => Text.lowerChars s.toList, excluded⟩

/-- Whether a file of this name is wanted. -/
def Quest.wants (q : Quest) (name : String) : Bool :=
  let lowered := Text.lowerChars name.toList
  q.suffixes.any fun s => s.isSuffixOf lowered

/-- What a walk finds at one name of a folder. -/
structure Branch where
  name : String
  isFolder : Bool
  paths : List Path
  deriving Repr

/-- Files before folders, each by name. -/
def arrange (branches : List Branch) : List Path :=
  let sorted := branches.mergeSort fun a b => decide (a.name ≤ b.name)
  (sorted.filter (!·.isFolder) ++ sorted.filter (·.isFolder)).flatMap Branch.paths

namespace Tree

/-- The longest path, in bytes, that a walk from a root can use. -/
def walkLimit (root : Path) : Nat := if root = .here then longestPath - 2 else longestPath

/-- Whether the link at a path leads to a file. -/
def leadsToFile (t : Tree) (limit : Nat) (path : Path) : Bool :=
  match t.resolveWithin limit path with
  | .ok ⟨_, .file _⟩ => true
  | _ => false

/-- Whether a folder that a walk comes to cannot be listed by its path. -/
def isClosed (t : Tree) (limit : Nat) (path : Path) : Bool := !(t.listWithin limit path).isOk

mutual

/-- What a walk finds at the entry `name` of a folder, which is reached as `path`. -/
def branch (t : Tree) (q : Quest) (limit : Nat) (path : Path) (name : String) : Entry → Branch
  | .file _ => ⟨name, false, if q.wants name then [path] else []⟩
  | .link _ => ⟨name, false, if t.leadsToFile limit path && q.wants name then [path] else []⟩
  | .folder entries =>
    ⟨name, true,
      if q.excluded.contains name || t.isClosed limit path then []
      else arrange (branches t q limit path entries)⟩

/-- What a walk finds in a folder, which is reached as `path`. -/
def branches (t : Tree) (q : Quest) (limit : Nat) (path : Path) :
    List (String × Entry) → List Branch
  | [] => []
  | (name, e) :: rest =>
    branch t q limit (path.child name) name e :: branches t q limit path rest

end

/-- The wanted files below a root, in walking order. -/
def walk (t : Tree) (root : Path) (q : Quest) : List Path :=
  match t.list root with
  | .ok (_, entries) => arrange (t.branches q (walkLimit root) root entries)
  | .error _ => []

/-- Looks for the wanted files below a root; one whose path holds a NUL is turned down. -/
def walkFiles (t : Tree) (root : Path) (q : Quest) : Except AccessError (List Path) := do
  root.checkNul
  return t.walk root q

end Tree
end Workspace
end DeclSearch
