/-
# Syntax trees

What is kept of a module's syntax: its statements with their nesting, the declarations
and assignments among them, and in expressions the names, attributes and what is needed
to tell what a class is built on.  Of everything else only the parts are kept, since
names may occur in them.
-/

import DeclSearch.Python.Token

namespace DeclSearch
namespace Python

/-- An expression, or a part of one that is not an expression of its own. -/
inductive Expr where
  | name (id : String) (start : Position)
  | attribute (value : Expr) (attr : String) (stop : Position)
  | call (function : Expr) (arguments : List Expr)
  | subscript (value : Expr) (index : List Expr)
  | starred (value : Expr)
  | keyword (name : Option String) (value : Expr)
  | tuple (items : List Expr)
  | list (items : List Expr)
  | other (parts : List Expr)
  deriving Repr

/-- A name that an import statement mentions, cut at its dots. -/
structure Import where
  names : List String
  start : Position
  deriving Repr, DecidableEq

mutual

/-- A statement.  `group` tells the two kinds of `try` apart: the one whose handlers take
groups of exceptions, and the ordinary one. -/
inductive Stmt where
  | classDef (start : Position) (name : String) (decorators arguments : List Expr)
      (body : List Stmt)
  | functionDef (start : Position) (name : String) (decorators parts : List Expr)
      (body : List Stmt)
  | annotated (target typeHint : Expr) (value : Option Expr)
  | assign (targets : List Expr) (value : Expr)
  | ifElse (test : Expr) (body orElse : List Stmt)
  | tryExcept (group : Bool) (body : List Stmt) (handlers : List Clause)
      (orElse final : List Stmt)
  | withItems (parts : List Expr) (body : List Stmt)
  | loop (parts : List Expr) (body orElse : List Stmt)
  | matchCases (subject : Expr) (cases : List Clause)
  | importNames (names : List Import)
  | importFrom (origin : Import) (names : List Import)
  | plain (parts : List Expr)
  deriving Repr

/-- A part of a statement with a body of its own. -/
inductive Clause where
  | mk (parts : List Expr) (body : List Stmt)
  deriving Repr

end

end Python
end DeclSearch
