/-
# The lexer

Cuts source code into tokens.  The indentation of a line is measured twice, with tabs
of eight columns and with tabs of one, and both measures must agree on whether a line is
indented more or less than the lines above it.  Inside brackets line breaks are blanks.

Text in which some part cannot be a token is given up there: what was found in front of it is all
that a parser gets to see.
-/

import DeclSearch.Python.Number
import DeclSearch.Python.Token
import DeclSearch.Text.Identifier
import DeclSearch.Text.Normal
import DeclSearch.Text.Octets

namespace DeclSearch
namespace Python

/-- What is left of a source text, and where it stands. -/
structure Cursor where
  place : Position
  rest : List Char
  deriving Repr, DecidableEq

/-- The place behind a piece of text. -/
def Position.after (p : Position) (taken : List Char) : Position :=
  taken.foldl (fun p c => if c = '\n' then ⟨p.line + 1, 0⟩ else ⟨p.line, p.column + 1⟩) p

/-- The cursor behind the next `n` octets, none of which is a line feed. -/
def Cursor.skip (c : Cursor) (n : Nat) : Cursor :=
  ⟨⟨c.place.line, c.place.column + n⟩, c.rest.drop n⟩

namespace Lexer

/-- The two measures of an indentation. -/
structure Margin where
  wide : Nat
  narrow : Nat
  deriving Repr, DecidableEq

/-- Reads an indentation.  A backslash at the end of a line continues it, and then the
first backslash behind a blank decides how wide it is. -/
def readMargin (place : Position) (margin : Margin) (fixed : Nat) :
    List Char → Option (Margin × Cursor)
  | ' ' :: rest =>
    readMargin ⟨place.line, place.column + 1⟩ ⟨margin.wide + 1, margin.narrow + 1⟩ fixed rest
  | '\t' :: rest =>
    readMargin ⟨place.line, place.column + 1⟩ ⟨(margin.wide / 8 + 1) * 8, margin.narrow + 1⟩ fixed
      rest
  -- a form feed starts the indentation anew
  | '\x0c' :: rest => readMargin ⟨place.line, place.column + 1⟩ ⟨0, 0⟩ fixed rest
  | '\\' :: '\n' :: rest =>
    if rest.isEmpty then none
    else readMargin ⟨place.line + 1, 0⟩ margin (if fixed = 0 then margin.wide else fixed) rest
  | '\\' :: _ => none
  | rest => some (if fixed = 0 then margin else ⟨fixed, fixed⟩, ⟨place, rest⟩)

/-- The deepest indentation, and the deepest nesting of brackets. -/
def deepestIndent : Nat := 99

/-- The deepest nesting of brackets. -/
def deepestNesting : Nat := 200

/-- The margins that stay when a line with a smaller one follows, and how many end. -/
def dedent (margin : Margin) : List Margin → Nat × List Margin
  | [] => (0, [])
  | m :: outer =>
    if margin.wide < m.wide then
      let (n, stay) := dedent margin outer
      (n + 1, stay)
    else (0, m :: outer)

/-- The indentation tokens in front of a line, and the margins that are open in it. -/
def openMargins (margin : Margin) (margins : List Margin) : Option (List Word × List Margin) :=
  let (closed, stay) := dedent margin margins
  let current := stay.headD ⟨0, 0⟩
  if current.wide = margin.wide then
    if current.narrow = margin.narrow then some (List.replicate closed .dedent, stay) else none
  else if closed ≠ 0 then none
  else if deepestIndent ≤ margins.length ∨ margin.narrow ≤ current.narrow then none
  else some ([.indent], margin :: margins)

/-- What the lexer knows between two tokens: the margins and brackets that are open,
innermost first, whether a line is about to start, and whether the line so far is blank. -/
structure State where
  margins : List Margin
  brackets : List Char
  lineStart : Bool
  blank : Bool
  deriving Repr, DecidableEq

/-- The letters that may stand in front of a string literal. -/
def stringLetters : List String := ["b", "r", "u", "f", "br", "rb", "fr", "rf"]

/-- The signs, longer ones before their beginnings; some of them have no use. -/
def signs : List String := [
  "**=", "//=", ">>=", "<<=", "...", "!=", "%=", "&=", "**", "*=", "+=", "-=", "->", "//", "/=",
  ":=", "<<", "<=", "<>", "==", ">=", ">>", "@=", "^=", "|=", "!", "$", "%", "&", "(", ")", "*",
  "+", ",", "-", ".", "/", ":", ";", "<", "=", ">", "?", "@", "[", "]", "^", "`", "\x7b", "|",
  "\x7d", "~"]

/-- The sign at the start of a text. -/
def sign? (cs : List Char) : Option String := signs.find? fun s => s.toList.isPrefixOf cs

/-- The size of a string's text up to its closing quote, within one line, behind `size`
octets already read. -/
def closedInLine (quote : Char) (size : Nat) : List Char → Option Nat
  | [] => none
  | '\\' :: _ :: rest => closedInLine quote (size + 2) rest
  | c :: rest =>
    if c = quote then some size
    else if c = '\n' then none
    else closedInLine quote (size + 1) rest

/-- The size of a string's text up to its three closing quotes, behind `size` octets
already read. -/
def closedByThree (quote : Char) (size : Nat) : List Char → Option Nat
  | [] => none
  | '\\' :: _ :: rest => closedByThree quote (size + 2) rest
  | c :: rest =>
    if (List.replicate 3 quote).isPrefixOf (c :: rest) then some size
    else closedByThree quote (size + 1) rest

/-- The string literal behind some letters, and the cursor behind it. -/
def string? (letters : List Char) (c : Cursor) : Option (Literal × Cursor) := do
  let quote ← c.rest.head?
  let three := (List.replicate 3 quote).isPrefixOf c.rest
  let width := if three then 3 else 1
  let inner := c.skip width
  let size ← if three then closedByThree quote 0 inner.rest else closedInLine quote 0 inner.rest
  let body := inner.rest.take size
  let close : Cursor := ⟨inner.place.after body, inner.rest.drop size⟩
  return (⟨letters, body, inner.place⟩, close.skip width)

/-- The word that the octets of a name make. -/
def nameWord? (octets : List Char) : Option Word := do
  -- A keyword is written in ASCII: what comes to one only in its normal form is a name.
  if octets.any Text.isHigh then
    let cs ← Text.charsOf? octets
    if Text.isIdentifier cs then some (.name (Text.normalForm (String.ofList cs)) false) else none
  else
    let text := String.ofList octets
    if keywords.contains text then some (.keyword text) else some (.name text true)

/-- The brackets that are open behind a sign. -/
def nest (text : String) (brackets : List Char) : Option (List Char) :=
  let opened (close : Char) : Option (List Char) :=
    if deepestNesting ≤ brackets.length then none else some (close :: brackets)
  let closed (close : Char) : Option (List Char) :=
    match brackets with
    | b :: outer => if b = close then some outer else none
    | [] => none
  match text with
  | "(" => opened ')'
  | "[" => opened ']'
  | "\x7b" => opened '\x7d'
  | ")" => closed ')'
  | "]" => closed ']'
  | "\x7d" => closed '\x7d'
  | _ => some brackets

/-- The next word of a line that starts with no blank, and what follows it. -/
def word? (brackets : List Char) (c : Cursor) : Option (Word × List Char × Cursor) := do
  let first ← c.rest.head?
  if Number.isNameOctet first && !first.isDigit then
    let octets := c.rest.takeWhile Number.isNameOctet
    let behind := c.skip octets.length
    let lowered := octets.map Char.toLower
    if (behind.rest.head?).any (fun q => q = '\'' || q = '"')
        && stringLetters.contains (String.ofList lowered) then
      let (literal, stop) ← string? lowered behind
      return (.string literal, brackets, stop)
    else
      return (← nameWord? octets, brackets, behind)
  else if first = '\'' ∨ first = '"' then
    let (literal, stop) ← string? [] c
    return (.string literal, brackets, stop)
  else if first.isDigit || (first = '.' && ((c.rest.drop 1).head?).any Char.isDigit) then
    let scan ← Number.scan? c.rest
    let word :=
      if Number.isHuge (c.rest.take scan.size) then .hugeNumber else .number scan.imaginary
    return (word, brackets, c.skip scan.size)
  else
    let text ← sign? c.rest
    return (.sign text, ← nest text brackets, c.skip text.length)

/-- A blank between words. -/
def isSpace (c : Char) : Bool := c = ' ' || c = '\t' || c = '\x0c'

/-- Cuts the rest of a text into tokens, behind those already found (last one first).  Where some
part of it cannot be a token, the error has the tokens in front of that. -/
def run : (fuel : Nat) → State → Cursor → List Token → Except (List Token) (List Token)
  | 0, _, _, done => .error done.reverse
  | fuel + 1, state, c, done =>
    if state.lineStart then
      match readMargin c.place ⟨0, 0⟩ 0 c.rest with
      | none => .error done.reverse
      | some (margin, start) =>
        let next := start.rest.head?
        let blank := next == some '#' || next == some '\n'
        -- A blank line tells no indentation, and neither does one inside of brackets.
        if blank || !state.brackets.isEmpty then
          run fuel { state with lineStart := false, blank } start done
        else
          match openMargins margin state.margins with
          | none => .error done.reverse
          | some (words, margins) =>
            let tokens := words.map fun word => ⟨word, start.place, start.place⟩
            run fuel { state with margins, lineStart := false, blank } start (tokens ++ done)
    else
      let c := c.skip (c.rest.takeWhile isSpace).length
      match c.rest with
      | [] =>
        if state.brackets.isEmpty then .ok (⟨.finish, c.place, c.place⟩ :: done).reverse
        else .error done.reverse
      | '#' :: rest => run fuel state (c.skip ((rest.takeWhile (· ≠ '\n')).length + 1)) done
      | '\n' :: rest =>
        let behind : Cursor := ⟨⟨c.place.line + 1, 0⟩, rest⟩
        let state' := { state with lineStart := true }
        if state.blank || !state.brackets.isEmpty then run fuel state' behind done
        else run fuel state' behind (⟨.newline, c.place, c.place⟩ :: done)
      | '\\' :: rest =>
        match rest with
        | '\n' :: more =>
          if more.isEmpty then .error done.reverse
          else run fuel state ⟨⟨c.place.line + 1, 0⟩, more⟩ done
        | _ => .error done.reverse
      | _ =>
        match word? state.brackets c with
        | none => .error done.reverse
        | some (word, brackets, stop) =>
          run fuel { state with brackets } stop (⟨word, c.place, stop.place⟩ :: done)

/-- The tokens of a text that starts at a place. -/
def tokensAt (place : Position) (source : List Char) : Except (List Token) (List Token) :=
  run (2 * source.length + 2) ⟨[], [], true, false⟩ ⟨place, source⟩ []

/-- The tokens of a source text. -/
def tokens (source : List Char) : Except (List Token) (List Token) := tokensAt ⟨1, 0⟩ source

end Lexer
end Python
end DeclSearch
