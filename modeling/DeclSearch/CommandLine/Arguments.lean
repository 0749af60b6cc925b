/-
# Arguments

What the words of a command line mean for a command.  A switch that asks for a text
comes before everything else; then the operands are looked at, in the order in which
their switches were first used, then the parameters, and in the end words that are left
over.

That is the order of evaluation that click documents: eager parameters first, which help and the
version are, then the others as the caller has given them.  A value is checked by its type, a range
of integers or a choice of words, and an option that is not repeatable takes the last of its values.
-/

import DeclSearch.CommandLine.Reading
import DeclSearch.Text.Integer

namespace DeclSearch
namespace CommandLine

/-- The value that an operand stands for. -/
inductive Value where
  | on
  | text (s : String)
  | number (n : Int)
  deriving Repr, DecidableEq

/-- The value of an operand, or the reason why it has none. -/
def Operand.value : Operand → Option String → Except String Value
  | _, none | .nothing, _ => .ok .on
  | .text _, some given => .ok (.text given)
  | .positive, some given =>
    match Text.readInt? given with
    | none => .error (Text.quoted given ++ " is not a valid integer range.")
    | some n =>
      if n < 1 then .error (toString n ++ " is not in the range x>=1.") else .ok (.number n)
  | .choice words, some given =>
    if words.contains given then .ok (.text given)
    else .error (Text.quoted given ++ " is not one of " ++
      Text.join ", " (words.map Text.quoted) ++ ".")

/-- The values of the switches that were used, and the words of the parameters. -/
structure Arguments where
  values : List (String × List Value)
  words : List String
  deriving Repr, DecidableEq

/-- What a command line asks for. -/
inductive Wish where
  | help
  | version
  | run (a : Arguments)
  deriving Repr, DecidableEq

namespace Arguments

/-- The switches that were used, in the order of their first use. -/
def used (uses : List Use) : List Switch := (uses.map Use.switch).eraseDups

/-- The values of one switch: of all its uses when it is repeatable, else of the last. -/
def valuesOf (uses : List Use) (s : Switch) : Except Complaint (List Value) :=
  let own := uses.filter (·.switch = s)
  let counted := if s.isRepeatable then own else own.getLast?.toList
  counted.mapM fun use => (s.operand.value use.operand).mapError (.invalid s.names)

/-- The first parameter without a word, and the words without a parameter. -/
def checkWords (c : Command) (words : List String) : Except Complaint Unit :=
  if c.isGroup then .ok ()
  else match c.parameters.drop words.length, words.drop c.parameters.length with
    | parameter :: _, _ => .error (.missing parameter)
    | [], [] => .ok ()
    | [], left => .error (.extra left)

/-- The arguments that a reading gives a command. -/
def ofReading (c : Command) (r : Reading) : Except Complaint Arguments := do
  let values ← (used r.uses).mapM fun s => do return (s.key, ← valuesOf r.uses s)
  checkWords c r.words
  return ⟨values, r.words⟩

/-- The values of a switch. -/
def get (a : Arguments) (key : String) : List Value := (a.values.lookup key).getD []

/-- Whether a switch was used. -/
def isOn (a : Arguments) (key : String) : Bool := !(a.get key).isEmpty

/-- The texts given for a switch. -/
def texts (a : Arguments) (key : String) : List String :=
  (a.get key).filterMap fun
    | .text s => some s
    | _ => none

/-- The text given for a switch. -/
def text? (a : Arguments) (key : String) : Option String := (a.texts key).head?

/-- The number given for a switch. -/
def number? (a : Arguments) (key : String) : Option Int :=
  match a.get key with
  | .number n :: _ => some n
  | _ => none

end Arguments

/-- What a switch asks for, if it asks for a text. -/
def Purpose.wish? : Purpose → Option Wish
  | .argument => none
  | .help => some .help
  | .version => some .version

/-- What the words behind the name of a command ask for. -/
def Command.wish (c : Command) (words : List String) : Except Complaint Wish := do
  let r ← c.read words
  match r.uses.findSome? fun use => use.switch.purpose.wish? with
  | some wish => return wish
  | none => return .run (← Arguments.ofReading c r)

end CommandLine
end DeclSearch
