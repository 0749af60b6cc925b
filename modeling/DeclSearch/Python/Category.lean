/-
# Categories of declarations

What a module declares, as this backend calls it, and the kind under which a search
reports it.  A class is reported by what it is built on: an enumeration before an
interface, an interface before a record, a record before a plain structure.
-/

import DeclSearch.Symbol

namespace DeclSearch
namespace Python

/-- What is declared. -/
inductive Category where
  | module
  | package
  | classDef
  | function
  | method
  | property
  | field
  | alias
  | record
  deriving Repr, DecidableEq

namespace Category

/-- All categories. -/
def all : List Category :=
  [.module, .package, .classDef, .function, .method, .property, .field, .alias, .record]

/-- The word for a category. -/
def text : Category → String
  | .module => "module"
  | .package => "package"
  | .classDef => "class"
  | .function => "function"
  | .method => "method"
  | .property => "property"
  | .field => "field"
  | .alias => "alias"
  | .record => "record"

/-- The category that a word names. -/
def ofText? (s : String) : Option Category := all.find? fun c => c.text == s

/-- The kind of what is declared, where no more is known about it. -/
def kind : Category → Kind
  | .module | .package => .namespaceDecl
  | .classDef => .classDecl
  | .function => .function
  | .method => .method
  | .property => .property
  | .field => .field
  | .alias => .type
  | .record => .record

end Category

/-- The bases that make a class an enumeration. -/
def enumBases : List String := ["Enum", "IntEnum", "StrEnum", "Flag", "IntFlag"]

/-- The bases that make a class an interface. -/
def interfaceBases : List String := ["Protocol", "ABC", "ABCMeta"]

/-- The bases that make a class a record. -/
def recordBases : List String := ["NamedTuple", "TypedDict"]

/-- The decorators that make a class a record. -/
def recordDecorators : List String := ["dataclass"]

/-- The bases that make a class a plain structure. -/
def structBases : List String :=
  ["Structure", "Union", "LittleEndianStructure", "BigEndianStructure"]

/-- The kind of a class with some bases and decorators. -/
def classKind (bases decorators : List String) : Kind :=
  if bases.any enumBases.contains then .enum
  else if bases.any interfaceBases.contains then .interface
  else if bases.any recordBases.contains || decorators.any recordDecorators.contains then .record
  else if bases.any structBases.contains then .struct
  else .classDecl

/-- The kind of a symbol. -/
def kindOf (s : Symbol) : Kind :=
  match Category.ofText? s.category with
  | some .classDef => classKind s.bases s.decorators
  | some c => c.kind
  | none => .symbol

end Python
end DeclSearch
