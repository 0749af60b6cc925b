/-
# Definition shapes

The six shapes in which a line may declare a name.  In the first two a keyword, one or
more blanks and the name stand one after another, from a word boundary to a word
boundary; in the other four the name starts at a word boundary and is followed, after
any blanks, by a certain mark.  Keywords and the name are compared letter by letter,
ignoring case.

`Shape.hits` lists the occurrences of a shape from left to right, each one starting at or
behind the end of the one before.  Where the name itself starts with blanks, as many of
the blanks as possible are taken to stand before it.
-/

import DeclSearch.LineKind
import DeclSearch.Text.Blank
import DeclSearch.Text.Letter
import DeclSearch.Text.Word

namespace DeclSearch

open Text (isBlank isBoundary sameLetter)

/-- A way in which a line may declare a name. -/
inductive Shape where
  | typeKeyword
  | aliasKeyword
  | assignment
  | call
  | generic
  | index
  deriving Repr, DecidableEq

namespace Shape

/-- All shapes, in the order in which they are tried. -/
def all : List Shape := [.typeKeyword, .aliasKeyword, .assignment, .call, .generic, .index]

/-- The label of a shape. -/
def label : Shape → String
  | .typeKeyword => "type-keyword"
  | .aliasKeyword => "alias-keyword"
  | .assignment => "assignment"
  | .call => "call"
  | .generic => "generic"
  | .index => "index"

/-- What sets a shape apart: the keywords before the name, or the marks behind it. -/
inductive Sign where
  | before (keywords : List String)
  | behind (marks : List Char)
  deriving Repr, DecidableEq

/-- The sign of a shape. -/
def sign : Shape → Sign
  | .typeKeyword => .before ["class", "interface", "struct", "enum", "record"]
  | .aliasKeyword => .before ["type", "typedef"]
  | .assignment => .behind [':', '=']
  | .call => .behind ['(']
  | .generic => .behind ['<']
  | .index => .behind ['[']

/-- What is left behind `word` at the start of a text, comparing letters. -/
def dropWord? : (word cs : List Char) → Option (List Char)
  | [], cs => some cs
  | _, [] => none
  | w :: word, c :: cs => if sameLetter w c then dropWord? word cs else none

/-- The last character of `taken`, or the one before it. -/
def lastOr (before : Option Char) (taken : List Char) : Option Char :=
  taken.getLast?.or before

/-- Tries the name behind `count`, `count - 1`, … `1` blanks of a text that starts with
that many; gives the number of blanks and what is left. -/
def nameBehindBlanks (query cs : List Char) : (count : Nat) → Option (Nat × List Char)
  | 0 => none
  | count + 1 =>
    let rest := cs.drop (count + 1)
    let found := (dropWord? query rest).filter fun left =>
      isBoundary (lastOr cs[count]? (rest.take query.length)) left.head?
    match found with
    | some left => some (count + 1, left)
    | none => nameBehindBlanks query cs count

/-- An occurrence of a shape: its first place, the place behind it, and the characters in
the place of the name. -/
structure Hit where
  start : Nat
  stop : Nat
  name : List Char
  deriving Repr, DecidableEq

/-- A match at the start of a text: how many characters it takes, how many of them stand
before the name, and how many are the name. -/
structure Fit where
  size : Nat
  offset : Nat
  nameSize : Nat
  deriving Repr, DecidableEq

/-- The match of a sign at the start of a text, `before` being the character in front. -/
def Sign.fit? (query : List Char) (before : Option Char) (cs : List Char) : Sign → Option Fit
  | .before keywords =>
    if isBoundary before cs.head? then
      keywords.findSome? fun keyword => do
        let rest ← dropWord? keyword.toList cs
        let blanks := (rest.takeWhile isBlank).length
        let (count, _) ← nameBehindBlanks query rest blanks
        let offset := keyword.length + count
        return ⟨offset + query.length, offset, query.length⟩
    else none
  | .behind marks =>
    if isBoundary before cs.head? then do
      let rest ← dropWord? query cs
      let blanks := (rest.takeWhile isBlank).length
      let mark ← (rest.drop blanks).head?
      if marks.contains mark then some ⟨query.length + blanks + 1, 0, query.length⟩ else none
    else none

/-- The occurrences of a sign in a text that starts at place `pos`, the first `skip`
characters of which belong to an occurrence already found. -/
def hitsFrom (sign : Sign) (query : List Char) :
    (pos skip : Nat) → (before : Option Char) → List Char → List Hit
  | _, _, _, [] => []
  | pos, skip + 1, _, c :: rest => hitsFrom sign query (pos + 1) skip (some c) rest
  | pos, 0, before, c :: rest =>
    match sign.fit? query before (c :: rest) with
    | some fit =>
      ⟨pos, pos + fit.size, ((c :: rest).drop fit.offset).take fit.nameSize⟩ ::
        hitsFrom sign query (pos + 1) (fit.size - 1) (some c) rest
    | none => hitsFrom sign query (pos + 1) 0 (some c) rest

/-- The occurrences of a shape in a line, from left to right. -/
def hits (shape : Shape) (query line : String) : List Hit :=
  hitsFrom shape.sign query.toList 0 0 none line.toList

/-- Whether a line declares a name: some shape occurs in it and, where case matters, the
characters in the place of the name are the name itself. -/
def declares (line query : String) (caseSensitive : Bool) : Bool :=
  all.any fun shape => (shape.hits query line).any fun hit =>
    !caseSensitive || hit.name == query.toList

/-- The kind of declaration that a line makes for a name. -/
def classify (line query : String) (caseSensitive : Bool) : Option Kind :=
  if declares line query caseSensitive then some (LineKind.ofLine line) else none

/-- A shape made ready for a query. -/
structure Rule where
  shape : Shape
  query : String
  deriving Repr, DecidableEq

/-- The rules for a query, in the order in which they are tried. -/
def rulesFor (query : String) : List Rule := all.map fun shape => ⟨shape, query⟩

/-- The occurrences that a rule finds in a line, from left to right. -/
def Rule.hits (rule : Rule) (line : String) : List Hit := rule.shape.hits rule.query line

/-- The kind of declaration that a line makes for a name, by rules that were made ready before: one
rule after another is tried at one occurrence after another, until the name stands there. -/
def classifyBy (rules : List Rule) (line query : String) (caseSensitive : Bool) : Option Kind :=
  rules.findSome? fun rule => (rule.hits line).findSome? fun hit =>
    if !caseSensitive || hit.name == query.toList then some (LineKind.ofLine line) else none

end Shape
end DeclSearch
