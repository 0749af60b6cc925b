/-
# Source files as lines

A source file is text: a NUL byte makes it binary, a leading byte-order mark is
dropped, and bytes that are not UTF-8 are shown as `U+FFFD` instead of failing.
-/

import DeclSearch.Text.Lines
import DeclSearch.Workspace.Tree

namespace DeclSearch
namespace Workspace

/-- Why a file cannot be read as text. -/
inductive SourceError where
  | access (e : AccessError)
  | binary
  deriving Repr, DecidableEq

/-- The wording of a failure to read a file as text. -/
def SourceError.message : SourceError → String
  | .access e => e.message
  | .binary => "binary content"

/-- The lines of a file's content. -/
def linesOfBytes (content : Text.Bytes) : List String :=
  (Text.linesOf (Text.Utf8.decodeLossy (Text.Utf8.dropMark content))).map String.ofList

/-- The lines of the file that a path leads to. -/
def Tree.readLines (t : Tree) (p : Path) : Except SourceError (List String) :=
  match t.read p with
  | .error e => .error (.access e)
  | .ok content => if content.contains 0 then .error .binary else .ok (linesOfBytes content)

end Workspace
end DeclSearch
