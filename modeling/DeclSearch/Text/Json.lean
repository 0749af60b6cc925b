/-
# JSON texts

The values that reports are made of, and their two written forms: over several lines,
indented by two blanks a level, and on one line.  Every character outside printable
ASCII is written as an escape of its UTF-16 units, so a report is plain ASCII.
-/

import DeclSearch.Text.Quoted

namespace DeclSearch
namespace Text

/-- A value of a report. -/
inductive Json where
  | text (s : String)
  | number (n : Int)
  | array (items : List Json)
  | object (fields : List (String × Json))
  deriving Repr

namespace Json

/-- One UTF-16 unit as an escape. -/
def escapedUnit (n : Nat) : List Char := ['\\', 'u'] ++ hexDigits 4 n

/-- One character inside a JSON string. -/
def escapedChar (c : Char) : List Char :=
  let n := c.toNat
  if c = '"' then ['\\', '"']
  else if c = '\\' then ['\\', '\\']
  else if c = '\n' then ['\\', 'n']
  else if c = '\r' then ['\\', 'r']
  else if c = '\t' then ['\\', 't']
  else if n = 8 then ['\\', 'b']
  else if n = 12 then ['\\', 'f']
  else if 32 ≤ n ∧ n < 127 then [c]
  else if n < 0x10000 then escapedUnit n
  else escapedUnit (0xD800 + (n - 0x10000) / 0x400) ++ escapedUnit (0xDC00 + (n - 0x10000) % 0x400)

/-- A JSON string. -/
def string (s : String) : List Char := '"' :: s.toList.flatMap escapedChar ++ ['"']

/-- A line break and the indentation of a level. -/
def newLine (level : Nat) : List Char := '\n' :: List.replicate (2 * level) ' '

mutual

/-- A value over several lines, standing at a level of indentation. -/
def pretty (level : Nat) : Json → List Char
  | .text s => string s
  | .number n => (toString n).toList
  | .array [] => ['[', ']']
  | .array items => '[' :: prettyItems (level + 1) items ++ newLine level ++ [']']
  | .object [] => ['\x7b', '\x7d']
  | .object fields => '\x7b' :: prettyFields (level + 1) fields ++ newLine level ++ ['\x7d']

/-- The items of an array, each on a line of its own. -/
def prettyItems (level : Nat) : List Json → List Char
  | [] => []
  | [v] => newLine level ++ pretty level v
  | v :: rest => newLine level ++ pretty level v ++ ',' :: prettyItems level rest

/-- The fields of an object, each on a line of its own. -/
def prettyFields (level : Nat) : List (String × Json) → List Char
  | [] => []
  | [(name, v)] => newLine level ++ string name ++ [':', ' '] ++ pretty level v
  | (name, v) :: rest =>
    newLine level ++ string name ++ [':', ' '] ++ pretty level v ++ ',' :: prettyFields level rest

end

mutual

/-- A value on one line. -/
def compact : Json → List Char
  | .text s => string s
  | .number n => (toString n).toList
  | .array items => '[' :: compactItems items ++ [']']
  | .object fields => '\x7b' :: compactFields fields ++ ['\x7d']

/-- The items of an array on one line. -/
def compactItems : List Json → List Char
  | [] => []
  | [v] => compact v
  | v :: rest => compact v ++ [',', ' '] ++ compactItems rest

/-- The fields of an object on one line. -/
def compactFields : List (String × Json) → List Char
  | [] => []
  | [(name, v)] => string name ++ [':', ' '] ++ compact v
  | (name, v) :: rest => string name ++ [':', ' '] ++ compact v ++ [',', ' '] ++ compactFields rest

end

/-- A value as a text over several lines. -/
def render (v : Json) : String := String.ofList (pretty 0 v)

/-- A value as a text on one line. -/
def renderLine (v : Json) : String := String.ofList (compact v)

end Json
end Text
end DeclSearch
