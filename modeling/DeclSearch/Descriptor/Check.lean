/-
# Checking descriptors

A unit can only be compiled if the file that describes it is well formed.  The suffix of
its name tells the format; a file of any other suffix is not looked at.  A script over which the
parser breaks down is neither well formed nor malformed, and that failure is left as it is.
-/

import DeclSearch.Descriptor.Ini
import DeclSearch.Descriptor.Toml.Document
import DeclSearch.Python.Module

namespace DeclSearch
namespace Descriptor

open Text (Bytes)
open Workspace (Path Tree)

/-- The formats of descriptors. -/
inductive Format where
  | toml
  | ini
  | script
  deriving Repr, DecidableEq

/-- The format of a file, by its suffix. -/
def Format.ofSuffix? : String → Option Format
  | ".toml" => some .toml
  | ".cfg" => some .ini
  | ".py" => some .script
  | _ => none

/-- What a check says of a script that cannot be parsed.  It stands for the wording of the parser,
which is not modelled. -/
def scriptFault : String := "<syntax error>"

/-- What is wrong with the content of a descriptor, if anything is. -/
def contentFault? (unit : Path) (content : Bytes) : Format → Except Failure (Option String)
  | .toml =>
    match Text.Utf8.decode content with
    | .error fault => .ok (some fault.message)
    | .ok document => .ok ((Toml.fault? document).map Toml.Fault.message)
  | .ini => .ok ((Ini.fault? (Text.Blocks.read content)).map (Ini.Fault.message unit.render))
  | .script =>
    match Python.parse content with
    | .ok _ => .ok none
    | .error .malformed => .ok (some scriptFault)
    | .error .internal => .error .brokenParser

/-- What is wrong with a descriptor, if anything is. -/
def fault? (tree : Tree) (unit : Path) : Except Failure (Option String) :=
  match Format.ofSuffix? unit.suffix with
  | none => .ok none
  | some format =>
    match tree.read unit with
    | .error e => .ok (some e.message)
    | .ok content => contentFault? unit content format

/-- Refuses a descriptor that is not well formed. -/
def check (tree : Tree) (unit : Path) : Except Failure Unit := do
  match ← fault? tree unit with
  | some reason => .error (.malformed unit.name reason)
  | none => return ()

end Descriptor
end DeclSearch
