/-
# Kinds of matches

The closed vocabulary in which a search says what it found.  `reference` is what a line
of text is when nothing more is known about it, and `symbol` what a declaration is when
its backend knows no better.
-/

namespace DeclSearch

/-- What a match is. -/
inductive Kind where
  | classDecl
  | interface
  | struct
  | enum
  | record
  | namespaceDecl
  | method
  | property
  | field
  | event
  | type
  | typedef
  | function
  | reference
  | symbol
  deriving Repr, DecidableEq

namespace Kind

/-- All kinds, in the order in which they are listed to clients. -/
def all : List Kind := [
  .classDecl, .interface, .struct, .enum, .record, .namespaceDecl, .method, .property, .field,
  .event, .type, .typedef, .function, .reference, .symbol]

/-- The word for a kind. -/
def text : Kind → String
  | .classDecl => "class"
  | .interface => "interface"
  | .struct => "struct"
  | .enum => "enum"
  | .record => "record"
  | .namespaceDecl => "namespace"
  | .method => "method"
  | .property => "property"
  | .field => "field"
  | .event => "event"
  | .type => "type"
  | .typedef => "typedef"
  | .function => "function"
  | .reference => "reference"
  | .symbol => "symbol"

/-- The kind that a word names. -/
def ofText? (s : String) : Option Kind := all.find? fun k => k.text == s

instance : ToString Kind := ⟨text⟩

end Kind
end DeclSearch
