/-
# Reading a command line

The words of a command line are read from left to right.  A word that starts with a
hyphen and is longer is a long name, with its operand behind an equals sign or in the
next word, or else a cluster of short names, the last of which may be followed by its
operand.  Behind `--` no word is a switch any more.  All other words are kept in order;
in a group the first of them ends the reading.

This is how the library click documents that it reads options and arguments:

* a long option takes its value behind an equals sign or from the next word, and a flag takes
  none; an option that is given but unknown, lacks its value or has one too many is an error, and
  for an unknown long option the similar ones are named;
* short options may share one hyphen, and the value of the last one may be attached to it;
* a value is taken from the next word whatever that looks like;
* options and arguments may be mixed (`allow_interspersed_args`), but a group stops at its first
  argument, which names a command;
* `--` ends the options, and a lone `-` is an argument.
-/

import DeclSearch.CommandLine.Complaint
import DeclSearch.Text.Similar

namespace DeclSearch
namespace CommandLine

/-- A switch where it is used, with its operand. -/
structure Use where
  switch : Switch
  operand : Option String
  deriving Repr, DecidableEq

/-- What one word says: the uses in it, and the switch that waits for an operand, under
the name that it was called by. -/
structure Saying where
  uses : List Use
  waiting : Option (String × Switch)
  deriving Repr, DecidableEq

/-- What has been read: the uses of switches and the other words, each in order. -/
structure Reading where
  uses : List Use
  words : List String
  deriving Repr, DecidableEq

namespace Reading

/-- Whether a word is read as a switch. -/
def isSwitchWord (word : String) : Bool :=
  match word.toList with
  | '-' :: _ :: _ => true
  | _ => false

/-- A word cut at its first equals sign. -/
def cutOperand (word : String) : String × Option String :=
  let name := word.toList.takeWhile (· ≠ '=')
  match word.toList.drop name.length with
  | [] => (word, none)
  | _ :: operand => (String.ofList name, some (String.ofList operand))

/-- What a long name says. -/
def longSaying (s : Switch) (name : String) (operand : Option String) :
    Except Complaint Saying :=
  match s.operand, operand with
  | .nothing, some _ => .error (.unwantedOperand name)
  | .nothing, none => .ok ⟨[⟨s, none⟩], none⟩
  | _, some given => .ok ⟨[⟨s, some given⟩], none⟩
  | _, none => .ok ⟨[], some (name, s)⟩

/-- What a cluster of short names says. -/
def shortSaying (c : Command) : List Char → Except Complaint Saying
  | [] => .ok ⟨[], none⟩
  | letter :: rest =>
    let name := String.ofList ['-', letter]
    match c.short? letter with
    | none => .error (.noSuchSwitch name [])
    | some s =>
      if s.operand = .nothing then
        (shortSaying c rest).map fun saying => { saying with uses := ⟨s, none⟩ :: saying.uses }
      else if rest.isEmpty then .ok ⟨[], some (name, s)⟩
      else .ok ⟨[⟨s, some (String.ofList rest)⟩], none⟩

/-- What a word that is read as a switch says. -/
def sayingOf (c : Command) (word : String) : Except Complaint Saying :=
  let (name, operand) := cutOperand word
  match c.long? name with
  | some s => longSaying s name operand
  | none =>
    match word.toList with
    | '-' :: '-' :: _ => .error (.noSuchSwitch name (Text.similarNames name c.longNames))
    | letters => shortSaying c (letters.drop 1)

/-- Reads words behind those already read. -/
def readOnto (c : Command) (done : Reading) : List String → Except Complaint Reading
  | [] => .ok done
  | word :: rest =>
    if word = "--" then .ok { done with words := done.words ++ rest }
    else if isSwitchWord word then
      match sayingOf c word with
      | .error complaint => .error complaint
      | .ok ⟨uses, none⟩ => readOnto c { done with uses := done.uses ++ uses } rest
      | .ok ⟨uses, some (name, s)⟩ =>
        match rest with
        | [] => .error (.noOperand name)
        | operand :: rest =>
          readOnto c { done with uses := done.uses ++ uses ++ [⟨s, some operand⟩] } rest
    else if c.isGroup then .ok { done with words := done.words ++ word :: rest }
    else readOnto c { done with words := done.words ++ [word] } rest

end Reading

/-- Reads the words behind the name of a command. -/
def Command.read (c : Command) (words : List String) : Except Complaint Reading :=
  Reading.readOnto c ⟨[], []⟩ words

end CommandLine
end DeclSearch
