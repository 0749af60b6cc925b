/-
# TOML documents

Reads a whole document statement by statement and finds its first fault.  A name may be
given a value once; a table may be declared once, and not where dotted keys have made
it; arrays and tables inside values can never grow.
-/

import DeclSearch.Descriptor.Toml.Scalar
import DeclSearch.Descriptor.Toml.Strings
import DeclSearch.Descriptor.Toml.Table

namespace DeclSearch
namespace Descriptor
namespace Toml

/-- What a value is, as far as later statements care. -/
inductive Shape where
  | scalar
  | container
  deriving Repr, DecidableEq

/-- Passes blanks, line breaks and comments inside an array. -/
def passGaps : (fuel : Nat) → Reader Unit
  | 0 => return
  | fuel + 1 => do
    passWhile fun c => isBlank c || c = '\n'
    if (← peek) = some '#' then
      passComment
      passGaps fuel

/-- The reader of a value inside another one. -/
abbrev SubValue := Reader Shape

/-- The items of an array behind those already read, up to the bracket. -/
def arrayItems (bound : Nat) (sub : SubValue) : (fuel : Nat) → Reader Unit
  | 0 => problem .unclosedArray
  | fuel + 1 => do
    discard sub
    passGaps bound
    match ← peek with
    | some ']' => pass 1
    | some ',' =>
      pass 1
      passGaps bound
      if (← peek) = some ']' then pass 1 else arrayItems bound sub fuel
    | _ => problem .unclosedArray

/-- An array. -/
def array (fuel : Nat) (sub : SubValue) : Reader Unit := do
  pass 1
  passGaps fuel
  if (← peek) = some ']' then pass 1 else arrayItems fuel sub fuel

/-- A key, an equals sign and a value. -/
def pair (fuel : Nat) (sub : SubValue) : Reader (Key × Shape) := do
  let k ← key fuel
  if (← peek) ≠ some '=' then problem .noEquals
  pass 1
  passWhile isBlank
  return (k, ← sub)

/-- The pairs of a table inside a value, given those already read, up to the bracket. -/
def tablePairs (bound : Nat) (sub : SubValue) (names : Names) (marks : Marks) :
    (fuel : Nat) → Reader Unit
  | 0 => problem .unclosedTable
  | fuel + 1 => do
    let (k, shape) ← pair bound sub
    if marks.isFrozen k then problem (.immutable k)
    match names.putValue false k with
    | none => problem .overwritten
    | some none => problem (.duplicate (k.getLastD ""))
    | some (some names) =>
      passWhile isBlank
      match ← peek with
      | some '\x7d' => pass 1
      | some ',' =>
        let marks := if shape = .container then marks.freeze k else marks
        pass 1
        passWhile isBlank
        tablePairs bound sub names marks fuel
      | _ => problem .unclosedTable

/-- A table inside a value. -/
def inlineTable (fuel : Nat) (sub : SubValue) : Reader Unit := do
  pass 1
  passWhile isBlank
  if (← peek) = some '\x7d' then pass 1 else tablePairs fuel sub [] .empty fuel

/-- A value, given the reader of the values inside it. -/
def valueLayer (fuel : Nat) (sub : SubValue) : Reader Shape := do
  match ← peek with
  | some '"' =>
    if ← at? "\"\"\"" then longString fuel '"' else discard (basicString fuel)
    return .scalar
  | some '\'' =>
    if ← at? "'''" then longString fuel '\'' else discard literalString
    return .scalar
  | some '[' =>
    array fuel sub
    return .container
  | some '\x7b' =>
    inlineTable fuel sub
    return .container
  | _ =>
    if ← at? "true" then pass 4
    else if ← at? "false" then pass 5
    else scalar
    return .scalar

/-- A value, nested at most `fuel` levels deep. -/
def value (bound : Nat) : (fuel : Nat) → Reader Shape
  | 0 => problem .invalidValue
  | fuel + 1 => valueLayer bound (value bound fuel)

/-- What is known between two statements: the tables, the marks, the keys that the next
declaration will mark as declared, and the table that keys belong to. -/
structure State where
  names : Names
  marks : Marks
  pending : List Key
  header : Key

/-- The keys on the way to a key, shorter ones first, without the key itself. -/
def keysAbove (header k : Key) : List Key :=
  (List.range (k.length - 1)).map fun i => header ++ k.take (i + 1)

/-- A statement that gives a key its value. -/
def pairStatement (fuel : Nat) (s : State) : Reader State := do
  let (k, shape) ← pair fuel (value fuel fuel)
  let above := keysAbove s.header k
  match above.find? fun key => s.marks.isDeclared key with
  | some key => problem (.redefined key)
  | none =>
    let parent := s.header ++ k.dropLast
    if s.marks.isFrozen parent then problem (.immutable parent)
    match s.names.putValue true (s.header ++ k) with
    | none | some none => problem .overwritten
    | some (some names) =>
      let marks := if shape = .container then s.marks.freeze (s.header ++ k) else s.marks
      return { s with names, marks, pending := s.pending ++ above }

/-- A statement that declares a table. -/
def tableStatement (fuel : Nat) (s : State) : Reader State := do
  pass 1
  passWhile isBlank
  let k ← key fuel
  if s.marks.isDeclared k || s.marks.isFrozen k then problem (.declaredTwice k)
  match s.names.openTable k with
  | none => problem .overwritten
  | some names =>
    if (← peek) ≠ some ']' then problem .tableEnd
    pass 1
    return { s with names, marks := s.marks.declare k, header := k }

/-- A statement that adds a table to a series. -/
def seriesStatement (fuel : Nat) (s : State) : Reader State := do
  pass 2
  passWhile isBlank
  let k ← key fuel
  if s.marks.isFrozen k then problem (.immutable k)
  match s.names.appendTable k with
  | none => problem .overwritten
  | some names =>
    if !(← at? "]]") then problem .seriesEnd
    pass 2
    return { s with names, marks := (s.marks.clear k).declare k, header := k }

/-- A statement that declares a table or adds one to a series. -/
def declaration (fuel : Nat) (s : State) : Reader State := do
  let s := { s with marks := s.pending.foldl (fun m k => m.declare k) s.marks, pending := [] }
  if ← at? "[[" then seriesStatement fuel s else tableStatement fuel s

/-- The statement at the current spot, if there is one. -/
def statement (fuel : Nat) (s : State) : Reader State := do
  match ← peek with
  | some '#' => return s
  | some '[' => declaration fuel s
  | some c =>
    if isBare c || c = '"' || c = '\'' then pairStatement fuel s else problem .invalidStatement
  | none => return s

/-- Reads statements until the end of the document. -/
def statements (bound : Nat) : (fuel : Nat) → State → Reader Unit
  | 0, _ => return
  | fuel + 1, s => do
    passWhile isBlank
    match ← peek with
    | none => return
    | some '\n' =>
      pass 1
      statements bound fuel s
    | some _ =>
      let s ← statement bound s
      passWhile isBlank
      passComment
      match ← peek with
      | none => return
      | some '\n' =>
        pass 1
        statements bound fuel s
      | some _ => problem .noLineEnd

/-- Every line break of two characters as one. -/
def joinBreaks (done : List Char) : List Char → List Char
  | [] => done.reverse
  | '\r' :: '\n' :: rest => joinBreaks ('\n' :: done) rest
  | c :: rest => joinBreaks (c :: done) rest

/-- The first fault of a document, if it has one. -/
def fault? (document : List Char) : Option Fault :=
  let text := joinBreaks [] document
  let fuel := text.length + 1
  match (statements fuel fuel ⟨[], .empty, [], []⟩).run ⟨1, 1, text⟩ with
  | .ok _ => none
  | .error f => some f

end Toml
end Descriptor
end DeclSearch
