/-
# Reading TOML: places and faults

A reader of TOML text moves a spot forward or stops with a fault, which says what is
wrong and where the reader stood.
-/

import DeclSearch.Text.Pieces
import DeclSearch.Text.Quoted

namespace DeclSearch
namespace Descriptor
namespace Toml

/-- What is left of a document, and where it stands, counted from one. -/
structure Spot where
  line : Nat
  column : Nat
  rest : List Char
  deriving Repr, DecidableEq

/-- A key with the parts between its dots. -/
abbrev Key := List String

/-- What is wrong with a document. -/
inductive Problem where
  | invalidStatement
  | invalidValue
  | keyStart
  | noEquals
  | noLineEnd
  | tableEnd
  | seriesEnd
  | declaredTwice (key : Key)
  | redefined (key : Key)
  | overwritten
  | immutable (key : Key)
  | duplicate (name : String)
  | unclosedArray
  | unclosedTable
  | unterminated
  | expected (quotes : String)
  | invalidCharacter (c : Char)
  | illegalCharacter (c : Char)
  | strayBackslash
  | hexValue
  | notScalar
  | date
  | tooManyDigits (digits : Nat)
  deriving Repr, DecidableEq

/-- A key as a message shows it. -/
def keyText (key : Key) : String :=
  match key with
  | [part] => "(" ++ Text.quoted part ++ ",)"
  | parts => "(" ++ Text.join ", " (parts.map Text.quoted) ++ ")"

/-- The wording of a problem, without the place. -/
def Problem.text : Problem → String
  | .invalidStatement => "Invalid statement"
  | .invalidValue => "Invalid value"
  | .keyStart => "Invalid initial character for a key part"
  | .noEquals => "Expected '=' after a key in a key/value pair"
  | .noLineEnd => "Expected newline or end of document after a statement"
  | .tableEnd => "Expected ']' at the end of a table declaration"
  | .seriesEnd => "Expected ']]' at the end of an array declaration"
  | .declaredTwice key => "Cannot declare " ++ keyText key ++ " twice"
  | .redefined key => "Cannot redefine namespace " ++ keyText key
  | .overwritten => "Cannot overwrite a value"
  | .immutable key => "Cannot mutate immutable namespace " ++ keyText key
  | .duplicate name => "Duplicate inline table key " ++ Text.quoted name
  | .unclosedArray => "Unclosed array"
  | .unclosedTable => "Unclosed inline table"
  | .unterminated => "Unterminated string"
  | .expected quotes => "Expected " ++ Text.quoted quotes
  | .invalidCharacter c => "Found invalid character " ++ Text.quoted (String.singleton c)
  | .illegalCharacter c => "Illegal character " ++ Text.quoted (String.singleton c)
  | .strayBackslash => "Unescaped '\\' in a string"
  | .hexValue => "Invalid hex value"
  | .notScalar => "Escaped character is not a Unicode scalar value"
  | .date => "Invalid date or datetime"
  | .tooManyDigits digits =>
    "Exceeds the limit (4300 digits) for integer string conversion: value has " ++
      toString digits ++ " digits; use sys.set_int_max_str_digits() to increase the limit"

/-- A problem and the spot at which it showed. -/
structure Fault where
  problem : Problem
  spot : Spot
  deriving Repr, DecidableEq

/-- The wording of a fault; a number that is too long is reported without its place. -/
def Fault.message (f : Fault) : String :=
  match f.problem with
  | .tooManyDigits _ => f.problem.text
  | _ =>
    f.problem.text ++ " (at " ++
      (if f.spot.rest.isEmpty then "end of document"
      else "line " ++ toString f.spot.line ++ ", column " ++ toString f.spot.column) ++ ")"

/-- The spot behind the next character. -/
def Spot.next (s : Spot) : Spot :=
  match s.rest with
  | [] => s
  | '\n' :: rest => ⟨s.line + 1, 1, rest⟩
  | _ :: rest => ⟨s.line, s.column + 1, rest⟩

/-- The spot behind the next `n` characters. -/
def Spot.skip (s : Spot) : (n : Nat) → Spot
  | 0 => s
  | n + 1 => s.next.skip n

/-- Something that reads TOML text. -/
abbrev Reader := StateT Spot (Except Fault)

/-- Stops with a problem at the current spot. -/
def problem {α : Type} (p : Problem) : Reader α := do throw ⟨p, ← get⟩

/-- The next character, which stays where it is. -/
def peek : Reader (Option Char) := return (← get).rest.head?

/-- Whether a text stands at the current spot. -/
def at? (text : String) : Reader Bool := return text.toList.isPrefixOf (← get).rest

/-- Passes `n` characters. -/
def pass (n : Nat) : Reader Unit := modify fun s => s.skip n

/-- Takes the characters of a class that stand at the current spot. -/
def takeWhile (p : Char → Bool) : Reader (List Char) := do
  let taken := (← get).rest.takeWhile p
  pass taken.length
  return taken

/-- Passes the characters of a class that stand at the current spot. -/
def passWhile (p : Char → Bool) : Reader Unit := discard (takeWhile p)

/-- A blank inside a line. -/
def isBlank (c : Char) : Bool := c = ' ' || c = '\t'

/-- A control character other than the tab. -/
def isControl (c : Char) : Bool := (c.toNat < 32 && c ≠ '\t') || c.toNat = 127

/-- A control character other than the tab and the line feed. -/
def isControlInText (c : Char) : Bool := isControl c && c ≠ '\n'

/-- Passes the text that stands at the current spot, unless a bad character is in it. -/
def passChecked (bad : Char → Bool) (text : List Char) : Reader Unit := do
  match text.find? bad with
  | none => pass text.length
  | some c =>
    passWhile fun d => !bad d
    problem (.invalidCharacter c)

/-- Passes a comment up to the end of its line, if there is one at the current spot. -/
def passComment : Reader Unit := do
  if (← peek) = some '#' then
    pass 1
    passChecked isControl ((← get).rest.takeWhile (· ≠ '\n'))

end Toml
end Descriptor
end DeclSearch
