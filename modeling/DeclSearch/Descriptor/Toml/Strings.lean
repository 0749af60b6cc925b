/-
# TOML strings and keys

Strings in single quotes are taken as they are; strings in double quotes have escapes.
Three quotes open a string that may have line breaks, and up to two more quotes may
stand in front of the three that close it.
-/

import DeclSearch.Descriptor.Toml.Reader

namespace DeclSearch
namespace Descriptor
namespace Toml

/-- The text in front of `mark`, if it occurs. -/
def before? (mark : List Char) (done : List Char) : List Char → Option (List Char)
  | [] => none
  | c :: rest =>
    if mark.isPrefixOf (c :: rest) then some done.reverse else before? mark (c :: done) rest

/-- Takes the text in front of some quotes, which have to follow, and the quotes. -/
def takeUntil (quotes : String) (bad : Char → Bool) : Reader (List Char) := do
  match before? quotes.toList [] (← get).rest with
  | none =>
    modify fun s => { s with rest := [] }
    problem (.expected quotes)
  | some text =>
    passChecked bad text
    pass quotes.length
    return text

/-- A string in single quotes. -/
def literalString : Reader (List Char) := do
  pass 1
  takeUntil "'" isControl

/-- A hexadecimal digit. -/
def isHex (c : Char) : Bool := c.isDigit || ('a' ≤ c && c ≤ 'f') || ('A' ≤ c && c ≤ 'F')

/-- The value of a hexadecimal digit. -/
def hexValue (c : Char) : Nat :=
  if c.isDigit then c.toNat - '0'.toNat else c.toLower.toNat - 'a'.toNat + 10

/-- The character that some hexadecimal digits name. -/
def hexCharacter (width : Nat) : Reader (List Char) := do
  let digits := (← get).rest.take width
  if digits.length ≠ width || !digits.all isHex then problem .hexValue
  pass width
  let n := digits.foldl (fun n c => 16 * n + hexValue c) 0
  if n < 0xD800 ∨ (0xDFFF < n ∧ n ≤ 0x10FFFF) then return [Char.ofNat n] else problem .notScalar

/-- What follows a backslash at the end of a line: the blanks up to the next text. -/
def lineJoin (letter : Char) : Reader (List Char) := do
  if letter ≠ '\n' then
    passWhile isBlank
    match ← peek with
    | none => return []
    | some '\n' => pass 1
    | some _ => problem .strayBackslash
  passWhile fun c => isBlank c || c = '\n'
  return []

/-- The characters that an escape stands for. -/
def escape (multiline : Bool) : Reader (List Char) := do
  let letter := ((← get).rest.drop 1).head?
  modify fun s => s.skip 2
  match letter with
  | none => problem .strayBackslash
  | some 'b' => return ['\x08']
  | some 't' => return ['\t']
  | some 'n' => return ['\n']
  | some 'f' => return ['\x0c']
  | some 'r' => return ['\r']
  | some '"' => return ['"']
  | some '\\' => return ['\\']
  | some 'u' => hexCharacter 4
  | some 'U' => hexCharacter 8
  | some c =>
    if multiline && (isBlank c || c = '\n') then lineJoin c else problem .strayBackslash

/-- The text of a string in double quotes behind what was already read (last character
first). -/
def basicText (multiline : Bool) (done : List Char) : (fuel : Nat) → Reader (List Char)
  | 0 => problem .unterminated
  | fuel + 1 => do
    match ← peek with
    | none => problem .unterminated
    | some '"' =>
      if !multiline then
        pass 1
        return done.reverse
      else if ← at? "\"\"\"" then
        pass 3
        return done.reverse
      else
        pass 1
        basicText multiline ('"' :: done) fuel
    | some '\\' =>
      let chars ← escape multiline
      basicText multiline (chars.reverse ++ done) fuel
    | some c =>
      if (if multiline then isControlInText c else isControl c) then problem (.illegalCharacter c)
      else
        pass 1
        basicText multiline (c :: done) fuel

/-- A string in double quotes. -/
def basicString (fuel : Nat) : Reader (List Char) := do
  pass 1
  basicText false [] fuel

/-- Passes a string in three quotes. -/
def longString (fuel : Nat) (quote : Char) : Reader Unit := do
  pass 3
  if (← peek) = some '\n' then pass 1
  if quote = '\'' then discard (takeUntil "'''" isControlInText)
  else discard (basicText true [] fuel)
  if (← peek) = some quote then
    pass 1
    if (← peek) = some quote then pass 1

/-- A character of a key without quotes. -/
def isBare (c : Char) : Bool := c.isAlphanum || c = '-' || c = '_'

/-- One part of a key. -/
def keyPart (fuel : Nat) : Reader String := do
  match ← peek with
  | some '\'' => return String.ofList (← literalString)
  | some '"' => return String.ofList (← basicString fuel)
  | some c => if isBare c then return String.ofList (← takeWhile isBare) else problem .keyStart
  | none => problem .keyStart

/-- The parts of a key behind those already read (last one first). -/
def keyOnto (bound : Nat) (done : Key) : (fuel : Nat) → Reader Key
  | 0 => problem .keyStart
  | fuel + 1 => do
    let part ← keyPart bound
    passWhile isBlank
    if (← peek) = some '.' then
      pass 1
      passWhile isBlank
      keyOnto bound (part :: done) fuel
    else return (part :: done).reverse

/-- A key. -/
def key (fuel : Nat) : Reader Key := keyOnto fuel [] fuel

end Toml
end Descriptor
end DeclSearch
