/-
# Mentions

The places where a module mentions names: bare names, attributes, and the parts of the
dotted names in import statements.  An attribute is placed by where it stops and how
many characters it has; an import statement that names a module mentions it where the
statement starts.
-/

import DeclSearch.Symbol
import DeclSearch.Python.Module

namespace DeclSearch
namespace Python

/-- A mention of a name. -/
structure Mention where
  word : String
  line : Nat
  column : Int
  deriving Repr, DecidableEq

/-- The mentions of the parts of an imported name. -/
def Import.mentions (i : Import) : List Mention :=
  i.names.map fun part => ⟨part, i.start.line, i.start.column⟩

mutual

/-- The mentions in an expression. -/
def mentionedBy : Expr → List Mention
  | .name id start => [⟨id, start.line, start.column⟩]
  | .attribute value attr stop =>
    ⟨attr, stop.line, (stop.column : Int) - attr.length⟩ :: mentionedBy value
  | .call function arguments => mentionedBy function ++ mentionedByAll arguments
  | .subscript value index => mentionedBy value ++ mentionedByAll index
  | .starred value => mentionedBy value
  | .keyword _ value => mentionedBy value
  | .tuple items => mentionedByAll items
  | .list items => mentionedByAll items
  | .other parts => mentionedByAll parts

/-- The mentions in some expressions. -/
def mentionedByAll : List Expr → List Mention
  | [] => []
  | e :: rest => mentionedBy e ++ mentionedByAll rest

end

mutual

/-- The mentions in a statement. -/
def mentionedIn : Stmt → List Mention
  | .classDef _ _ decorators arguments body =>
    mentionedByAll decorators ++ mentionedByAll arguments ++ mentionedInAll body
  | .functionDef _ _ decorators parts body =>
    mentionedByAll decorators ++ mentionedByAll parts ++ mentionedInAll body
  | .annotated target typeHint value =>
    mentionedBy target ++ mentionedBy typeHint ++ mentionedByAll value.toList
  | .assign targets value => mentionedByAll targets ++ mentionedBy value
  | .ifElse test body orElse => mentionedBy test ++ mentionedInAll body ++ mentionedInAll orElse
  | .tryExcept _ body handlers orElse final =>
    mentionedInAll body ++ mentionedInClauses handlers ++ mentionedInAll orElse ++
      mentionedInAll final
  | .withItems parts body => mentionedByAll parts ++ mentionedInAll body
  | .loop parts body orElse =>
    mentionedByAll parts ++ mentionedInAll body ++ mentionedInAll orElse
  | .matchCases subject cases => mentionedBy subject ++ mentionedInClauses cases
  | .importNames names => names.flatMap Import.mentions
  | .importFrom origin names => origin.mentions ++ names.flatMap Import.mentions
  | .plain parts => mentionedByAll parts

/-- The mentions in a run of statements. -/
def mentionedInAll : List Stmt → List Mention
  | [] => []
  | s :: rest => mentionedIn s ++ mentionedInAll rest

/-- The mentions in clauses. -/
def mentionedInClauses : List Clause → List Mention
  | [] => []
  | .mk parts body :: rest =>
    mentionedByAll parts ++ mentionedInAll body ++ mentionedInClauses rest

end

/-- A place in a module, by line and column. -/
abbrev Spot := Nat × Int

/-- Whether a spot comes before another one or is the same. -/
def Spot.le (a b : Spot) : Bool := decide (a.1 < b.1 ∨ (a.1 = b.1 ∧ a.2 ≤ b.2))

/-- A sorted list without repetitions. -/
def distinctSpots : List Spot → List Spot
  | a :: b :: rest => if a = b then distinctSpots (b :: rest) else a :: distinctSpots (b :: rest)
  | spots => spots

namespace Module

/-- The mentions in a module. -/
def mentions (m : Module) : List Mention := mentionedInAll m.body

/-- The spots where a module mentions a name, each once and in order. -/
def spotsOf (m : Module) (name : String) : List Spot :=
  let spots := (m.mentions.filter fun mention => mention.word = name).map fun mention =>
    ((mention.line, mention.column) : Spot)
  distinctSpots (spots.mergeSort Spot.le)

/-- The locations where a module mentions a symbol's name, without the symbol's own. -/
def references (m : Module) (s : Symbol) : List Location :=
  ((m.spotsOf s.name).map fun spot => (⟨m.path.render, spot.1, spot.2⟩ : Location)).filter
    fun location => location ≠ s.location

end Module
end Python
end DeclSearch
