/-
# Modules

A source file as a part of a unit: its statements and its dotted name.  The name is made
of the names on the way from the unit's folder to the file, without the file's suffix; a
folder `src` in front is left out, and so is `__init__` at the end.  Where nothing is
left the module is named after the folder.
-/

import DeclSearch.Failure
import DeclSearch.Python.Encoding
import DeclSearch.Python.Statement

namespace DeclSearch
namespace Python

open Text (Bytes)
open Workspace (Path)

/-- A parsed source file.  One without any bytes has no first line. -/
structure Module where
  path : Path
  name : String
  body : List Stmt
  isEmpty : Bool
  deriving Repr

/-- The statements of a source file, or the fault that keeps it from having any. -/
def parse (content : Bytes) : Except Fault (List Stmt) :=
  match Encoding.source? content with
  | some source => parseModule source
  | none => .error .malformed

/-- The statements of a source file, if it can be parsed. -/
def statements? (content : Bytes) : Option (List Stmt) := (parse content).toOption

/-- The file that makes a folder a package. -/
def packageFile : String := "__init__.py"

namespace Module

/-- The name parts without a leading `src`, unless there is nothing else. -/
def withoutSourceFolder : List String → List String
  | "src" :: part :: rest => part :: rest
  | parts => parts

/-- The name parts without `__init__` at the end. -/
def withoutInit (parts : List String) : List String :=
  if parts.getLast? = some "__init__" then parts.dropLast else parts

/-- The dotted name that name parts make in a folder. -/
def dottedName (folder : Path) (parts : List String) : String :=
  match Text.join "." (withoutInit (withoutSourceFolder parts)) with
  | "" => folder.name
  | name => name

/-- The dotted name of the module in a file below a folder. -/
def nameOf (folder file : Path) : Except Failure String :=
  match folder.below? file with
  | none => .error (.notBelow file folder)
  | some parts =>
    match parts.getLast? with
    | none => .error (.unnamed .here)
    | some last => .ok (dottedName folder (parts.dropLast ++ [(Path.splitSuffix last).1]))

end Module
end Python
end DeclSearch
