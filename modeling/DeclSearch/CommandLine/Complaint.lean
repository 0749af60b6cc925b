/-
# Complaints

What can be wrong with the words of a command line.  A complaint is shown behind the
usage of the command that makes it, except where a switch and its operand do not fit
together.
-/

import DeclSearch.CommandLine.Command
import DeclSearch.Text.Quoted

namespace DeclSearch
namespace CommandLine

/-- What is wrong with a command line. -/
inductive Complaint where
  | noSuchSwitch (name : String) (similar : List String)
  | noOperand (name : String)
  | unwantedOperand (name : String)
  | invalid (names : List String) (reason : String)
  | missing (parameter : String)
  | extra (words : List String)
  | noCommand
  | noSuchCommand (word : String)
  deriving Repr, DecidableEq

namespace Complaint

/-- The hint at names that may have been meant. -/
def hint : List String → String
  | [] => ""
  | [name] => " Did you mean " ++ name ++ "?"
  | names =>
    " (Possible options: " ++ Text.join ", " (names.mergeSort fun a b => decide (a ≤ b)) ++ ")"

/-- The wording of a complaint. -/
def message : Complaint → String
  | .noSuchSwitch name similar => "No such option: " ++ name ++ hint similar
  | .noOperand name => "Option " ++ Text.quoted name ++ " requires an argument."
  | .unwantedOperand name => "Option " ++ Text.quoted name ++ " does not take a value."
  | .invalid names reason =>
    "Invalid value for " ++ Text.join " / " (names.map fun name => "'" ++ name ++ "'") ++ ": " ++
      reason
  | .missing parameter => "Missing argument '" ++ parameter ++ "'."
  | .extra [word] => "Got unexpected extra argument (" ++ word ++ ")"
  | .extra words => "Got unexpected extra arguments (" ++ Text.join " " words ++ ")"
  | .noCommand => "Missing command."
  | .noSuchCommand word => "No such command " ++ Text.quoted word ++ "."

/-- Whether the usage is shown as well. -/
def showsUsage : Complaint → Bool
  | .noOperand _ | .unwantedOperand _ => false
  | _ => true

/-- What a command shows with a complaint. -/
def report (c : Command) (complaint : Complaint) : String :=
  (if complaint.showsUsage then
    c.usage ++ "\nTry '" ++ c.call ++ " --help' for help.\n\n" else "") ++
  "Error: " ++ complaint.message ++ "\n"

end Complaint
end CommandLine
end DeclSearch
