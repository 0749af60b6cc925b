/-
# Previews

The few lines around a match.  The window reaches `radius` lines to either side of the
target, is cut off at the ends of the file and never padded; the target carries one
mark and every other line another of the same width.
-/

import DeclSearch.Failure

namespace DeclSearch
namespace Preview

/-- How many lines a preview shows on either side. -/
def radius : Nat := 2

/-- What stands before the target line. -/
def targetMark : String := ">>> "

/-- What stands before every other line. -/
def plainMark : String := "    "

/-- The lines of the window around `target`, each with its mark. -/
def window (lines : List String) (target : Nat) : List String :=
  let first := target - radius
  ((lines.drop first).take (target + radius + 1 - first)).mapIdx fun i line =>
    (if first + i = target then targetMark else plainMark) ++ line

/-- The window around `target` as one text. -/
def text (lines : List String) (target : Nat) : String := Text.join "\n" (window lines target)

/-- The preview of the line at an index, or the failure that there is no such line. -/
def extract (lines : List String) (index : Int) : Except Failure String :=
  if 0 ≤ index ∧ index < lines.length then .ok (text lines index.toNat)
  else .error (.outOfRange index lines.length)

end Preview
end DeclSearch
