/-
# Lines

A text is cut at `CR LF`, `CR` and `LF` and at nothing else.  A break ends a line, so
one at the end of the text starts no further line, and the empty text has none.
-/

namespace DeclSearch
namespace Text

/-- Cuts the rest of a text behind the lines found (last one first) and the part of the
current line read so far (last character first). -/
def linesOnto (lines : List (List Char)) (line : List Char) : List Char → List (List Char)
  | [] => (if line.isEmpty then lines else line.reverse :: lines).reverse
  | '\r' :: '\n' :: rest => linesOnto (line.reverse :: lines) [] rest
  | '\r' :: rest => linesOnto (line.reverse :: lines) [] rest
  | '\n' :: rest => linesOnto (line.reverse :: lines) [] rest
  | c :: rest => linesOnto lines (c :: line) rest

/-- The lines of a list of characters. -/
def linesOf (cs : List Char) : List (List Char) := linesOnto [] [] cs

/-- The lines of a text. -/
def splitLines (s : String) : List String := (linesOf s.toList).map String.ofList

end Text
end DeclSearch
