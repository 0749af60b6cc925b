/-
# INI documents

A document of sections and options.  An option runs from its name and the first `=` or
`:` to the end of the line; a line that is indented more than the option it follows
continues its value.  Lines that start with `#` or `;` are comments.

A second section or option of one name and a line in front of all sections are faults
that end the reading; lines that are no options are collected and reported together.
-/

import DeclSearch.Text.Blank
import DeclSearch.Text.Blocks
import DeclSearch.Text.Letter
import DeclSearch.Text.Pieces
import DeclSearch.Text.Quoted

namespace DeclSearch
namespace Descriptor
namespace Ini

/-- A line as it stands in the document, with its number. -/
structure Line where
  number : Nat
  text : List Char
  deriving Repr, DecidableEq

/-- What is wrong with a document. -/
inductive Fault where
  | noSection (line : Line)
  | badLines (lines : List Line)
  | section (number : Nat) (name : String)
  | option (number : Nat) (name sectionName : String)
  | text (fault : Text.Utf8.Fault)
  deriving Repr, DecidableEq

/-- A line number in two places. -/
def paddedNumber (n : Nat) : String := if n < 10 then " " ++ toString n else toString n

/-- The wording of a fault in a file. -/
def Fault.message (file : String) : Fault → String
  | .noSection line =>
    "File contains no section headers.\nfile: " ++ Text.quoted file ++ ", line: " ++
      toString line.number ++ "\n" ++ Text.quoted (String.ofList line.text)
  | .badLines lines =>
    "Source contains parsing errors: " ++ Text.quoted file ++
      String.join (lines.map fun line =>
        "\n\t[line " ++ paddedNumber line.number ++ "]: " ++
          Text.quoted (String.ofList line.text))
  | .section number name =>
    "While reading from " ++ Text.quoted file ++ " [line " ++ paddedNumber number ++
      "]: section " ++ Text.quoted name ++ " already exists"
  | .option number name sectionName =>
    "While reading from " ++ Text.quoted file ++ " [line " ++ paddedNumber number ++
      "]: option " ++ Text.quoted name ++ " in section " ++ Text.quoted sectionName ++
      " already exists"
  | .text fault => fault.message

/-- The lines of a document, each with its line feed; other line breaks are turned into
line feeds. -/
def linesOnto (number : Nat) (done : List Line) (line : List Char) : List Char → List Line
  | [] => (if line.isEmpty then done else ⟨number, line.reverse⟩ :: done).reverse
  | '\r' :: '\n' :: rest =>
    linesOnto (number + 1) (⟨number, ('\n' :: line).reverse⟩ :: done) [] rest
  | '\r' :: rest => linesOnto (number + 1) (⟨number, ('\n' :: line).reverse⟩ :: done) [] rest
  | '\n' :: rest => linesOnto (number + 1) (⟨number, ('\n' :: line).reverse⟩ :: done) [] rest
  | c :: rest => linesOnto number done (c :: line) rest

/-- The name in a section header: what stands between the first bracket and the last. -/
def header? (text : List Char) : Option String :=
  match text with
  | '[' :: rest =>
    match rest.reverse.dropWhile (· ≠ ']') with
    | _ :: c :: name => some (String.ofList (c :: name).reverse)
    | _ => none
  | _ => none

/-- The name of an option, which stands in front of the first `=` or `:`. -/
def option? (text : List Char) : Option (List Char) :=
  let name := text.takeWhile fun c => c ≠ '=' && c ≠ ':'
  if name.length = text.length then none
  else some (Text.trimStartChars name.reverse).reverse

/-- The section that gives options to all others and may be opened again. -/
def defaultSection : String := "DEFAULT"

/-- What is known between two lines: the open section, whether an option that may be
continued came before, its indentation, the sections and options so far, and the lines
that could not be read. -/
structure State where
  openSection : Option String
  hasOption : Bool
  indent : Nat
  sections : List String
  options : List (String × String)
  bad : List Line
  deriving Repr, DecidableEq

/-- Reads a section header. -/
def readHeader (s : State) (line : Line) (name : String) : Except Fault State :=
  if s.sections.contains name then .error (.section line.number name)
  else .ok { s with
    openSection := some name
    hasOption := false
    sections := if name = defaultSection then s.sections else name :: s.sections }

/-- Reads an option of the open section; one without a name is also a bad line. -/
def readOption (s : State) (line : Line) (sectionName : String) (name : List Char) :
    Except Fault State :=
  let id := Text.lower (String.ofList name)
  if s.options.contains (sectionName, id) then .error (.option line.number id sectionName)
  else .ok { s with
    hasOption := !name.isEmpty
    options := (sectionName, id) :: s.options
    bad := if name.isEmpty then s.bad ++ [line] else s.bad }

/-- Reads one line. -/
def readLine (s : State) (line : Line) : Except Fault State :=
  let value := Text.trimChars line.text
  match value with
  | [] | '#' :: _ | ';' :: _ => .ok s
  | _ =>
    let indent := (line.text.takeWhile Text.isBlank).length
    if s.openSection.isSome && s.hasOption && decide (s.indent < indent) then .ok s
    else
      let s := { s with indent }
      match header? value, s.openSection with
      | some name, _ => readHeader s line name
      | none, none => .error (.noSection line)
      | none, some sectionName =>
        match option? value with
        | some name => readOption s line sectionName name
        | none => .ok { s with bad := s.bad ++ [line] }

/-- The lines of a document that breaks off behind `document`: the last one is left out
unless a line feed ends it. -/
def completeLines (document : List Char) : List Line :=
  let seen := if document.getLast? = some '\r' then document.dropLast else document
  (linesOnto 1 [] [] seen).filter fun line => line.text.getLast? = some '\n'

/-- What is known behind some lines. -/
def readLines (lines : List Line) : Except Fault State :=
  lines.foldlM readLine ⟨none, false, 0, [], [], []⟩

/-- The first fault of a document as far as it can be decoded, if it has one: one that ends
the reading, then the place where it breaks off, then the bad lines. -/
def fault? (document : Text.Blocks.Reading) : Option Fault :=
  match document.fault with
  | some broken =>
    match readLines (completeLines document.text) with
    | .error f => some f
    | .ok _ => some (.text broken)
  | none =>
    match readLines (linesOnto 1 [] [] document.text) with
    | .error f => some f
    | .ok s => if s.bad.isEmpty then none else some (.badLines s.bad)

end Ini
end Descriptor
end DeclSearch
