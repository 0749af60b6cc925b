/-
# TOML tables

What is known of a document while it is read: the tables and their names, and marks that
say which tables were declared and which values can no longer grow.  A table may be one
of a series, and then names behind it belong to the latest one of the series.
-/

import DeclSearch.Descriptor.Toml.Reader

namespace DeclSearch
namespace Descriptor
namespace Toml

/-- What a name stands for: a value that is no table, a table, or a series of tables of
which the latest is kept. -/
inductive Node where
  | leaf
  | table (names : List (String × Node))
  | series (latest : List (String × Node))
  deriving Repr

/-- The names of a table. -/
abbrev Names := List (String × Node)

namespace Names

/-- The names with `node` at `name`. -/
def set (name : String) (node : Node) : Names → Names
  | [] => [(name, node)]
  | (n, old) :: rest =>
    if n = name then (name, node) :: rest else (n, old) :: set name node rest

/-- Changes the table behind a key, which is made if it is missing; `none` if some name on
the way is no table.  A series is entered only where `enter` says so. -/
def modifyAt (enter : Bool) (f : Names → Option Names) : Key → Names → Option Names
  | [], names => f names
  | k :: rest, names => do
    let node ← match names.lookup k with
      | none => (modifyAt enter f rest []).map .table
      | some (.table inner) => (modifyAt enter f rest inner).map .table
      | some (.series inner) =>
        if enter then (modifyAt enter f rest inner).map .series else none
      | some .leaf => none
    return set k node names

/-- The names with a table at a key. -/
def openTable (key : Key) (names : Names) : Option Names := modifyAt true some key names

/-- The names with a new table in the series at a key. -/
def appendTable (key : Key) (names : Names) : Option Names :=
  match key.getLast? with
  | none => none
  | some last =>
    modifyAt true (fun inner =>
      match inner.lookup last with
      | none | some (.series _) => some (set last (.series []) inner)
      | some _ => none) key.dropLast names

/-- The names with a value at a key; `none` if the key cannot be reached, and `some none`
if its last name is taken. -/
def putValue (enter : Bool) (key : Key) (names : Names) : Option (Option Names) :=
  match key.getLast? with
  | none => none
  | some last =>
    match modifyAt enter some key.dropLast names with
    | none => none
    | some _ =>
      some (modifyAt enter (fun inner =>
        if (inner.lookup last).isSome then none else some (set last .leaf inner))
        key.dropLast names)

end Names

/-- The marks of a name and of the names below it: whether it was declared as a table, and
whether it is frozen with all that is below it. -/
inductive Marks where
  | mk (declared frozen : Bool) (below : List (String × Marks))
  deriving Repr

namespace Marks

/-- No marks. -/
def empty : Marks := .mk false false []

/-- The marks of a name below. -/
def below? (name : String) : Marks → Option Marks
  | .mk _ _ below => below.lookup name

/-- The marks with those of a name below set. -/
def setBelow (name : String) (inner : Marks) : (outer : Marks) → Marks
  | .mk d f below => .mk d f ((name, inner) :: below.filter (·.1 ≠ name))

/-- Changes the marks of a key. -/
def modifyAt (f : Marks → Marks) : Key → Marks → Marks
  | [], m => f m
  | k :: rest, m => setBelow k (modifyAt f rest ((m.below? k).getD empty)) m

/-- Marks a key as declared. -/
def declare : Key → Marks → Marks := modifyAt fun
  | .mk _ f below => .mk true f below

/-- Marks a key as frozen. -/
def freeze : Key → Marks → Marks := modifyAt fun
  | .mk d _ below => .mk d true below

/-- Takes all marks away from a key and what is below it. -/
def clear : Key → Marks → Marks
  | [], m => m
  | [k], .mk d f below => .mk d f (below.filter (·.1 ≠ k))
  | k :: rest, m =>
    match m.below? k with
    | none => m
    | some inner => setBelow k (clear rest inner) m

/-- Whether a key is declared. -/
def isDeclared : Key → Marks → Bool
  | [], _ => false
  | [k], m => match m.below? k with
    | some (.mk d _ _) => d
    | none => false
  | k :: rest, m => match m.below? k with
    | some inner => isDeclared rest inner
    | none => false

/-- Whether a key or a name above it is frozen. -/
def isFrozen : Key → Marks → Bool
  | [], _ => false
  | k :: rest, m => match m.below? k with
    | some (.mk d f below) => f || isFrozen rest (.mk d f below)
    | none => false

end Marks
end Toml
end Descriptor
end DeclSearch
