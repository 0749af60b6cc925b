/-
# Commands

A command is described by data: the words that call it, its parameters, which are told
apart by their order, and its switches, which are told apart by name.  A switch has a
short name of a hyphen and a letter, a long name, or both, and it takes one operand or
none.  A group of commands reads its own switches only up to the name of a command.
-/

import DeclSearch.Text.Pieces

namespace DeclSearch
namespace CommandLine

/-- What a switch takes. -/
inductive Operand where
  | nothing
  | text (label : String)
  | positive
  | choice (words : List String)
  deriving Repr, DecidableEq

/-- What a switch is for, as far as reading a command line is concerned: most carry an
argument, and two ask for a text instead of a run. -/
inductive Purpose where
  | argument
  | help
  | version
  deriving Repr, DecidableEq

/-- A switch of a command; the operands of a repeatable one add up, of any other the last
one counts. -/
structure Switch where
  names : List String
  operand : Operand
  summary : String := ""
  isRepeatable : Bool := false
  purpose : Purpose := .argument
  deriving Repr, DecidableEq

namespace Switch

/-- The name under which the values of a switch are kept: the last one. -/
def key (s : Switch) : String := s.names.getLastD ""

/-- Whether a name is a short one: a single hyphen and a single letter. -/
def isShort (name : String) : Bool :=
  match name.toList with
  | ['-', letter] => letter ≠ '-'
  | _ => false

/-- Whether the switch has a long name. -/
def hasLong (s : Switch) (name : String) : Bool := s.names.contains name && !isShort name

/-- Whether the switch has a short name of this letter. -/
def hasShort (s : Switch) (letter : Char) : Bool :=
  s.names.any fun name => isShort name && name == String.ofList ['-', letter]

end Switch

/-- A command, or a group of commands. -/
structure Command where
  call : String
  summary : String
  parameters : List String
  switches : List Switch
  isGroup : Bool := false
  deriving Repr, DecidableEq

namespace Command

/-- The switch with a long name. -/
def long? (c : Command) (name : String) : Option Switch :=
  c.switches.find? fun s => s.hasLong name

/-- The switch with a short name of this letter. -/
def short? (c : Command) (letter : Char) : Option Switch :=
  c.switches.find? fun s => s.hasShort letter

/-- All long names. -/
def longNames (c : Command) : List String :=
  c.switches.flatMap fun s => s.names.filter (!Switch.isShort ·)

/-- The line that shows how a command is called. -/
def usage (c : Command) : String :=
  Text.join " " (["Usage:", c.call, "[OPTIONS]"] ++
    if c.isGroup then ["COMMAND", "[ARGS]..."] else c.parameters)

end Command
end CommandLine
end DeclSearch
