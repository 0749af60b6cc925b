/-
# Parsing tokens

A parser takes tokens from the front of a list, or it halts.  It halts in front of a word that it
has no use for (`Halt.mismatch`); then a failed alternative leaves the list as it was, and the next
one is tried.  For any other reason the whole text is given up at once.

Repetition is bounded by a number that the callers take from the size of the source text, so every
parser is total.
-/

import DeclSearch.Python.Token

namespace DeclSearch
namespace Python

/-- Why a source text has no statements: there is something wrong with it, or the parser breaks
down over the report of what is wrong. -/
inductive Fault where
  | malformed
  | internal
  deriving Repr, DecidableEq

/-- Why a parser halts: it has no use for the next word; there is no next word; something is wrong
and the report is on the last token looked at, or on a column, counted from one; or a fault was
found in a text inside this one. -/
inductive Halt where
  | mismatch
  | exhausted
  | stuck
  | blame (column : Nat)
  | fault (f : Fault)
  deriving Repr, DecidableEq

/-- A reader of tokens. -/
abbrev Parse := StateT (List Token) (Except Halt)

namespace Parse

variable {α β : Type}

/-- Halts. -/
def halt (why : Halt) : Parse α := fun _ => .error why

/-- Gives up this alternative. -/
def mismatch : Parse α := halt .mismatch

/-- Gives up the text with a report on the first of some tokens. -/
def blame (ts : List Token) : Parse α :=
  halt (.blame ((ts.head?.map (·.start.column + 1)).getD 0))

/-- The next token, which stays where it is. -/
def peekToken : Parse Token := fun ts =>
  match ts with
  | t :: _ => .ok (t, ts)
  | [] => .error .exhausted

/-- The next word, which stays where it is. -/
def peek : Parse Word := return (← peekToken).word

/-- Takes the next token. -/
def next : Parse Token
  | t :: ts => .ok (t, ts)
  | [] => .error .exhausted

/-- What a parser would make of some tokens and leave of them, unless it has no use for a word; here
it takes nothing. -/
def tryOn (start : List Token) (p : Parse α) : Parse (Option (α × List Token)) := fun ts =>
  match p start with
  | .ok result => .ok (some result, ts)
  | .error .mismatch => .ok (none, ts)
  | .error why => .error why

/-- Whether a parser could go on here; it takes nothing. -/
def isAhead (p : Parse α) : Parse Bool := return (← tryOn (← get) p).isSome

/-- The word behind the next one; both stay where they are. -/
def peekSecond : Parse Word := fun ts =>
  match ts with
  | _ :: t :: _ => .ok (t.word, ts)
  | _ => .error .exhausted

/-- Takes the next token if it is this word. -/
def word (w : Word) : Parse Token := do
  let t ← next
  if t.word = w then return t else mismatch

/-- Takes this sign. -/
def sign (text : String) : Parse Token := word (.sign text)

/-- Takes this keyword. -/
def keyword (text : String) : Parse Token := word (.keyword text)

/-- Takes a word that is a keyword only in its place. -/
def soft (text : String) : Parse Token := word (.name text true)

/-- Whether the next word is this sign. -/
def atSign (text : String) : Parse Bool := return (← peek) == .sign text

/-- Whether the next word is this keyword. -/
def atKeyword (text : String) : Parse Bool := return (← peek) == .keyword text

/-- Whether the next word is one of these signs. -/
def atAnySign (texts : List String) : Parse Bool := do
  match ← peek with
  | .sign text => return texts.contains text
  | _ => return false

/-- Takes one of these signs. -/
def anySign (texts : List String) : Parse Unit := do
  if ← atAnySign texts then discard next else mismatch

/-- A name with its place. -/
structure Name where
  id : String
  plain : Bool
  start : Position
  stop : Position
  deriving Repr, DecidableEq

/-- Takes a name. -/
def name : Parse Name := do
  let t ← next
  match t.word with
  | .name id plain => return ⟨id, plain, t.start, t.stop⟩
  | _ => mismatch

/-- Whether the next two words are a name and this sign. -/
def atNameAndSign (text : String) : Parse Bool := do
  match ← peek with
  | .name _ _ => return (← peekSecond) == .sign text
  | _ => return false

/-- What a parser reads, or nothing where it has no use for a word. -/
def attempt (p : Parse α) : Parse (Option α) := fun ts =>
  match p ts with
  | .ok (a, rest) => .ok (some a, rest)
  | .error .mismatch => .ok (none, ts)
  | .error why => .error why

/-- Reads a parser's input as often as possible, behind what was already read (last one
first). -/
def manyOnto (p : Parse α) (done : List α) : (fuel : Nat) → Parse (List α)
  | 0 => return done.reverse
  | fuel + 1 => do
    match ← attempt p with
    | some a => manyOnto p (a :: done) fuel
    | none => return done.reverse

/-- Reads a parser's input as often as possible. -/
def many (fuel : Nat) (p : Parse α) : Parse (List α) := manyOnto p [] fuel

/-- Reads a parser's input as often as possible, and at least once. -/
def atLeastOne (fuel : Nat) (p : Parse α) : Parse (List α) := do
  let first ← p
  manyOnto p [first] fuel

/-- Reads a parser's input as often as it follows a comma, and once before. -/
def commaSeparated (fuel : Nat) (p : Parse α) : Parse (List α) := do
  let first ← p
  manyOnto (do discard (sign ","); p) [first] fuel

/-- Reads a list with commas between its items and perhaps one at its end; says whether
there was any comma. -/
def commaList (fuel : Nat) (p : Parse α) : Parse (List α × Bool) := do
  let items ← commaSeparated fuel p
  let last ← attempt (sign ",")
  return (items, last.isSome || 1 < items.length)

/-- The last token that a parser looks at before it halts: it is short of tokens as long as it has
not been given this one. -/
def furthest? (p : Parse α) (ts : List Token) : Option Token :=
  let isShort (n : Nat) : Bool :=
    match p (ts.take n) with
    | .error .exhausted => true
    | _ => false
  (ts.take ((List.range ts.length).countP isShort)).getLast?

end Parse
end Python
end DeclSearch
