/-
# Declarations

The symbols that a module declares, in source order: the module itself, then classes,
functions, methods and properties, the fields of classes, and the assignments that make a
type alias or a record.  Conditionals, ordinary `try` statements and `with` statements
are looked into; a declaration there belongs to the body around them.
-/

import DeclSearch.Python.Category
import DeclSearch.Python.Module

namespace DeclSearch
namespace Python

/-- The last identifier of a dotted, called or subscripted expression, empty when it has
none. -/
def tailName : Expr → String
  | .name id _ => id
  | .attribute _ attr _ => attr
  | .call function _ => tailName function
  | .subscript value _ => tailName value
  | _ => ""

/-- What a class argument says about what the class is built on: an ordinary argument
before a metaclass. -/
def baseNames (arguments : List Expr) : List String :=
  let plain := arguments.filterMap fun
    | .keyword _ _ => none
    | e => some (tailName e)
  let metaclasses := arguments.filterMap fun
    | .keyword (some "metaclass") value => some (tailName value)
    | _ => none
  (plain ++ metaclasses).filter (· ≠ "")

/-- The body that a declaration stands in. -/
inductive Scope where
  | moduleBody
  | classBody
  | functionBody
  deriving Repr, DecidableEq

/-- A body with the name that qualifies its declarations, in a file. -/
structure Site where
  file : String
  qualifier : String
  scope : Scope
  deriving Repr, DecidableEq

namespace Site

/-- The symbol of a name that is declared here. -/
def symbol (site : Site) (name : String) (category : Category) (start : Position)
    (bases decorators : List String) : Symbol :=
  { name
    qualifiedName := site.qualifier ++ "." ++ name
    category := category.text
    location := ⟨site.file, start.line, start.column⟩
    bases
    decorators }

/-- The body of something that is declared here. -/
def inside (site : Site) (name : String) (scope : Scope) : Site :=
  { site with qualifier := site.qualifier ++ "." ++ name, scope }

end Site

/-- The decorators that make a method a property. -/
def propertyDecorators : List String := ["property", "cached_property"]

/-- The functions that make a type alias. -/
def aliasFactories : List String := ["NewType", "TypeVar", "ParamSpec", "TypeVarTuple"]

/-- The functions that make a record. -/
def recordFactories : List String := ["namedtuple", "NamedTuple", "TypedDict"]

/-- What a function is in a body. -/
def functionCategory (scope : Scope) (decorators : List String) : Category :=
  match scope with
  | .classBody =>
    if decorators.any propertyDecorators.contains then .property else .method
  | _ => .function

/-- The function that an assigned value is made by, empty when it is no call. -/
def factoryName : Option Expr → String
  | some (.call function _) => tailName function
  | _ => ""

/-- What an assignment declares in a body, if it declares anything. -/
def assignmentCategory? (scope : Scope) (typeHint factory : String) : Option Category :=
  if scope = .classBody then some .field
  else if typeHint = "TypeAlias" ∨ factory ∈ aliasFactories then some .alias
  else if factory ∈ recordFactories then some .record
  else none

/-- The symbols of the plain names among the targets of an assignment. -/
def assigned (site : Site) (targets : List Expr) (typeHint : String) (value : Option Expr) :
    List Symbol :=
  match assignmentCategory? site.scope typeHint (factoryName value) with
  | none => []
  | some category => targets.filterMap fun
    | .name id start => some (site.symbol id category start [] [])
    | _ => none

mutual

/-- The symbols that a statement declares. -/
def declaredBy (site : Site) : Stmt → List Symbol
  | .classDef start name decorators arguments body =>
    site.symbol name .classDef start (baseNames arguments) (decorators.map tailName) ::
      declaredIn (site.inside name .classBody) body
  | .functionDef start name decorators _ body =>
    let decorators := decorators.map tailName
    site.symbol name (functionCategory site.scope decorators) start [] decorators ::
      declaredIn (site.inside name .functionBody) body
  | .annotated target typeHint value => assigned site [target] (tailName typeHint) value
  | .assign targets value => assigned site targets "" (some value)
  | .ifElse _ body orElse => declaredIn site body ++ declaredIn site orElse
  | .tryExcept false body handlers orElse final =>
    declaredIn site body ++ declaredInClauses site handlers ++ declaredIn site orElse ++
      declaredIn site final
  | .withItems _ body => declaredIn site body
  | _ => []

/-- The symbols that a run of statements declares. -/
def declaredIn (site : Site) : List Stmt → List Symbol
  | [] => []
  | s :: rest => declaredBy site s ++ declaredIn site rest

/-- The symbols that the bodies of clauses declare. -/
def declaredInClauses (site : Site) : List Clause → List Symbol
  | [] => []
  | .mk _ body :: rest => declaredIn site body ++ declaredInClauses site rest

end

namespace Module

/-- The symbol of the module itself, which stands at its first character. -/
def symbol (m : Module) : Symbol where
  name := (Text.cut '.' m.name).getLastD ""
  qualifiedName := m.name
  category := (if m.path.name = packageFile then Category.package else Category.module).text
  location := ⟨m.path.render, 1, 0⟩

/-- The symbols that a module declares. -/
def declarations (m : Module) : List Symbol :=
  (if m.isEmpty then [] else [m.symbol]) ++
    declaredIn ⟨m.path.render, m.name, .moduleBody⟩ m.body

end Module
end Python
end DeclSearch
