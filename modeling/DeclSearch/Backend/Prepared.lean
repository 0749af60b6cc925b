/-
# Prepared backends

A backend whose answers are fixed beforehand, unit by unit: for trying out a search
without a project.  A unit may fail at being compiled or at being queried; the handle of
a unit is its path.
-/

import DeclSearch.Backend.Basic

namespace DeclSearch

open Workspace (Path)

/-- A prepared symbol with the answers about it. -/
structure PreparedSymbol where
  symbol : Symbol
  kind : Kind
  declarations : List Location
  references : List Location
  deriving Repr, DecidableEq

/-- What is prepared for a unit; without symbols it cannot be queried. -/
structure PreparedUnit where
  compileFailure : Option Failure
  queryFailure : Option Failure
  symbols : Option (List PreparedSymbol)
  deriving Repr, DecidableEq

/-- What a prepared backend answers from. -/
structure Script where
  profile : Profile
  units : List (String × PreparedUnit)
  deriving Repr, DecidableEq

namespace Script

/-- The backend that answers from a script. -/
def toBackend (s : Script) : Backend String PreparedSymbol where
  profile := s.profile
  compile := fun _ unit =>
    match s.units.lookup unit.render with
    | none => .error .unsupported
    | some prepared =>
      match prepared.compileFailure with
      | some failure => .error failure
      | none => .ok unit.render
  symbol := PreparedSymbol.symbol
  find := fun unit test =>
    match s.units.lookup unit with
    | none => .error .unsupported
    | some prepared =>
      match prepared.queryFailure, prepared.symbols with
      | some failure, _ => .error failure
      | none, none => .error .unsupported
      | none, some symbols => .ok (symbols.filter fun entry => test.accepts entry.symbol.name)
  declarations := fun entry => .ok entry.declarations
  references := fun entry _ => .ok entry.references
  kindOf := fun entry => .ok entry.kind

end Script
end DeclSearch
