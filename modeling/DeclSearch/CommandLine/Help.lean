/-
# Help

The text that explains a command: how it is called, what it does, its switches in two
columns, and for a group its commands.  A line is at most `width` characters long as
long as its words are.

The layout is the one that click documents for its help formatter: the text is two columns narrower
than 80 (`max_content_width`), a list of definitions has a first column of at most 30 (`col_max`)
with two blanks behind it (`col_spacing`), an entry that is longer has a line to itself, and the
lines below are indented to the second column.  An option is shown with all of its names and the
metavariable of its type, and the range of a number stands in brackets behind the summary.
-/

import DeclSearch.CommandLine.Command

namespace DeclSearch
namespace CommandLine
namespace Help

/-- The width of the text. -/
def width : Nat := 78

/-- The greatest width of the first column. -/
def columnLimit : Nat := 30

/-- Words put into lines behind a line that is not full yet. -/
def fill (limit : Nat) (line : String) : List String → List String
  | [] => [line]
  | word :: rest =>
    if line.length + 1 + word.length ≤ limit then fill limit (line ++ " " ++ word) rest
    else line :: fill limit word rest

/-- A text in lines. -/
def wrap (limit : Nat) (text : String) : List String :=
  match Text.cut ' ' text with
  | [] => []
  | word :: rest => fill limit word rest

/-- Some blanks. -/
def blanks (n : Nat) : String := String.ofList (List.replicate n ' ')

/-- The lines of one row of a table whose second column starts behind `column`
characters. -/
def row (column : Nat) (first second : String) : List String :=
  let lines := if second = "" then [] else wrap (width - column - 2) second
  match lines with
  | [] => ["  " ++ first]
  | line :: more =>
    let later := (more.map fun l => blanks (column + 2) ++ l)
    if first.length + 2 ≤ column then
      ("  " ++ first ++ blanks (column - first.length) ++ line) :: later
    else ("  " ++ first) :: (blanks (column + 2) ++ line) :: later

/-- The lines of a table. -/
def table (rows : List (String × String)) : List String :=
  let widest := (rows.map (·.1.length)).foldl max 0
  rows.flatMap fun (first, second) => row (min widest columnLimit + 2) first second

/-- The label of what a switch takes. -/
def label : Operand → String
  | .nothing => ""
  | .text label => " " ++ label
  | .positive => " INTEGER RANGE"
  | .choice words => " [" ++ Text.join "|" words ++ "]"

/-- What is said of a switch. -/
def switchRow (s : Switch) : String × String :=
  (Text.join ", " s.names ++ label s.operand,
    if s.operand = .positive then s.summary ++ "  [x>=1]" else s.summary)

/-- The text that explains a command; `commands` are those of a group, with what they do. -/
def text (c : Command) (commands : List (String × String)) : String :=
  Text.join "\n" (
    [c.usage, "", "  " ++ c.summary, "", "Options:"] ++ table (c.switches.map switchRow) ++
    if commands.isEmpty then [] else ["", "Commands:"] ++ table commands)

end Help
end CommandLine
end DeclSearch
