/-
# Replacement fields

A format literal is text with replacement fields in braces.  A field holds an
expression, then perhaps an equals sign, a conversion, and behind a colon a format, which
is again text with fields; fields nest no deeper than that.  Doubled braces outside a
format stand for single ones.

Only the places and texts of the expressions are of interest here.  Where a literal cannot be cut
in this way, the expressions in front of that place are known all the same.

The tokens of an expression are cut from its text in brackets of its own.  A reader notes them one
line at a time: on the line of the brace it counts the columns from there, on others from the start
of the line.  But it asks for the line where a token stops, so a string that starts on the line of
the brace and goes on behind it is noted too far to the left (`Slot.noted`).
-/

import DeclSearch.Python.Escape
import DeclSearch.Python.Lexer

namespace DeclSearch
namespace Python
namespace Format

/-- The text of an expression in braces, and the place of the brace in front of it. -/
structure Slot where
  text : List Char
  brace : Position
  deriving Repr, DecidableEq

/-- A brace. -/
def isBrace (c : Char) : Bool := c = '\x7b' || c = '\x7d'

/-- Reads literal text up to the end or a brace that is not part of it, behind the text
already read (last octet first).  `top` says that doubled braces are part of the text,
`named` that the text stands inside a named character; the first `skip` octets are text
whatever they are. -/
def readText (raw top named : Bool) (skip : Nat) (done : List Char) (place : Position) :
    List Char → Option (List Char × Cursor)
  | [] => some (done.reverse, ⟨place, []⟩)
  | c :: rest =>
    let take (named : Bool) (skip : Nat) :=
      readText raw top named skip (c :: done) (place.after [c]) rest
    if 0 < skip then take named (skip - 1)
    else if named then take (c ≠ '\x7d') 0
    else if c = '\\' && !raw then
      if rest.take 2 = ['N', '\x7b'] then take true 2
      -- a backslash does not take a brace with it
      else if (rest.head?).any isBrace then take false 0
      else take false 1
    else if isBrace c then
      if top && rest.head? = some c then take false 1
      else if top && c = '\x7d' then none
      else some (done.reverse, ⟨place, c :: rest⟩)
    else take false 0

/-- The bracket that closes an opening one. -/
def closing? (c : Char) : Option Char :=
  if c = '(' then some ')' else if c = '[' then some ']' else if c = '\x7b' then some '\x7d'
  else none

/-- A closing bracket. -/
def isClosing (c : Char) : Bool := c = ')' || c = ']' || c = '\x7d'

/-- A mark that may end an expression outside brackets. -/
def isMark (c : Char) : Bool :=
  c = '!' || c = ':' || c = '\x7d' || c = '=' || c = '>' || c = '<'

/-- A quote that is open in an expression. -/
structure Quote where
  char : Char
  triple : Bool
  deriving Repr, DecidableEq

/-- Reads the text of an expression up to the mark that ends it, behind what was already
read (last octet first).  The first `skip` octets belong to a sign or quote already
seen. -/
def readExpression (quote : Option Quote) (brackets : List Char) (skip : Nat) (done : List Char)
    (place : Position) : List Char → Option (List Char × Cursor)
  | [] => none
  | c :: rest =>
    let go (quote : Option Quote) (brackets : List Char) (skip : Nat) :=
      readExpression quote brackets skip (c :: done) (place.after [c]) rest
    if 0 < skip then go quote brackets (skip - 1)
    else if c = '\\' then none
    else match quote with
      | some q =>
        if c ≠ q.char then go quote brackets 0
        else if !q.triple then go none brackets 0
        else if rest.take 2 = [c, c] then go none brackets 2
        else go quote brackets 0
      | none =>
        if c = '\'' ∨ c = '"' then
          if rest.take 2 = [c, c] then go (some ⟨c, true⟩) brackets 2
          else go (some ⟨c, false⟩) brackets 0
        else match closing? c with
          | some close =>
            if Lexer.deepestNesting ≤ brackets.length then none
            else go none (close :: brackets) 0
          | none =>
            if c = '#' then none
            else if brackets.isEmpty && isMark c then
              -- the first half of a comparison
              if rest.head? = some '=' && c ≠ ':' && c ≠ '\x7d' then go none brackets 1
              else if c = '>' ∨ c = '<' then go none brackets 0
              else some (done.reverse, ⟨place, c :: rest⟩)
            else if isClosing c then
              match brackets with
              | b :: outer => if b = c then go none outer 0 else none
              | [] => none
            else go none brackets 0

/-- A blank inside a field. -/
def isSpace (c : Char) : Bool :=
  c = ' ' || c = '\t' || c = '\n' || c = '\r' || c = '\x0c' || c = '\x0b'

/-- The cursor behind the next octet. -/
def next (c : Cursor) : Cursor := ⟨c.place.after (c.rest.take 1), c.rest.drop 1⟩

/-- The cursor behind an equals sign and the blanks behind it, if there is one here. -/
def passEquals (c : Cursor) : Cursor :=
  if c.rest.head? = some '=' then
    let behind := next c
    let blanks := behind.rest.takeWhile isSpace
    ⟨behind.place.after blanks, behind.rest.drop blanks.length⟩
  else c

/-- The cursor behind a conversion, if there is one here; it has to be a known one. -/
def passConversion (c : Cursor) : Option Cursor :=
  if c.rest.head? = some '!' then
    let letter := next c
    if (letter.rest.head?).any fun l => l = 's' || l = 'r' || l = 'a' then some (next letter)
    else none
  else some c

/-- What was found in a text: slots and the cursor behind them, or the slots in front of a place
where the text cannot be cut. -/
abbrev Cutting := Except (List Slot) (List Slot × Cursor)

/-- Reads a field behind its opening brace; `format` reads the format behind a colon. -/
def readField (format : Cursor → Cutting) (brace : Cursor) : Cutting :=
  let start := next brace
  match readExpression none [] 0 [] start.place start.rest with
  | none => .error []
  | some (text, mark) =>
    if text.all fun c => isSpace c && c ≠ '\x0b' then .error []
    else
      let slot : Slot := ⟨text, brace.place⟩
      match passConversion (passEquals mark) with
      | none => .error [slot]
      | some behind =>
        match if behind.rest.head? = some ':' then format (next behind) else .ok ([], behind) with
        | .error inner => .error (slot :: inner)
        | .ok (inner, stop) =>
          if stop.rest.head? = some '\x7d' then .ok (slot :: inner, next stop)
          else .error (slot :: inner)

/-- Reads text and fields until the end, or in a format until its closing brace. -/
def readFields (field : Cursor → Cutting) (raw top : Bool) : (fuel : Nat) → Cursor → Cutting
  | 0, _ => .error []
  | fuel + 1, c =>
    match readText raw top false 0 [] c.place c.rest with
    | none => .error []
    | some (text, stop) =>
      if !Escape.isText raw text then .error []
      else if stop.rest.head? = some '\x7b' then
        match field stop with
        | .error slots => .error slots
        | .ok (slots, behind) =>
          match readFields field raw top fuel behind with
          | .error others => .error (slots ++ others)
          | .ok (others, last) => .ok (slots ++ others, last)
      else .ok ([], stop)

/-- Reads a format, in which fields may nest `depth` levels deep. -/
def readFormat (raw : Bool) (fuel : Nat) : (depth : Nat) → Cursor → Cutting
  | 0 => readFields (fun _ => .error []) raw false fuel
  | depth + 1 => readFields (readField (readFormat raw fuel depth)) raw false fuel

/-- The slots of a format literal, or where it cannot be cut those in front of that place. -/
def slots (l : Literal) : Except (List Slot) (List Slot) :=
  let fuel := l.body.length + 1
  match readFields (readField (readFormat l.isRaw fuel 1)) l.isRaw true fuel ⟨l.start, l.body⟩ with
  | .error slots => .error slots
  | .ok (slots, stop) => if stop.rest.isEmpty then .ok slots else .error slots

/-- A token as the reader of a slot notes it, given the place of the brace. -/
def Slot.noted (brace : Position) (t : Token) : Token :=
  if t.start.line = brace.line ∧ t.stop.line ≠ brace.line then
    let back (p : Position) : Position := ⟨p.line, p.column - brace.column⟩
    match t.word with
    | .string l =>
      { t with word := .string { l with start := back l.start }, start := back t.start }
    | _ => t
  else t

/-- The tokens of the expression in a slot, or those in front of what cannot be one. -/
def Slot.tokens (s : Slot) : Except (List Token) (List Token) :=
  match Lexer.tokensAt s.brace ('(' :: s.text ++ [')', '\n']) with
  | .ok ts => .ok (ts.map (Slot.noted s.brace))
  | .error ts => .error (ts.map (Slot.noted s.brace))

/-- The column from which a report on a slot of a literal counts: that of the brace, or where
nothing but blanks follows the brace on its line, that of the literal's own start there. -/
def Slot.origin (l : Literal) (s : Slot) : Nat :=
  if (s.text.dropWhile Lexer.isSpace).head? = some '\n' then
    if s.brace.line = l.start.line then l.start.column - l.letters.length - 3 else 0
  else s.brace.column

end Format
end Python
end DeclSearch
