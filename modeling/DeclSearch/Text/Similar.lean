/-
# Similar names

Which of a list of known names an unknown one was probably meant to be.  Two names are
compared by their matching blocks: the longest common run (the earliest one in the first
name, then in the second), and the same again to its left and to its right.  With `m`
matched characters the names are similar when `2 m` is at least six tenths of their
lengths together.
-/

namespace DeclSearch
namespace Text

/-- The length of the common start of two lists. -/
def commonStart : List Char → List Char → Nat
  | a :: as, b :: bs => if a = b then commonStart as bs + 1 else 0
  | _, _ => 0

/-- A common run: its start in each list and its length. -/
structure CommonRun where
  left : Nat
  right : Nat
  size : Nat
  deriving Repr, DecidableEq

/-- The longest common run, the earliest in the first list and then in the second. -/
def longestRun (as bs : List Char) : CommonRun :=
  let starts := (List.range as.length).flatMap fun i => (List.range bs.length).map (i, ·)
  starts.foldl (fun best (i, j) =>
    let size := commonStart (as.drop i) (bs.drop j)
    if best.size < size then ⟨i, j, size⟩ else best) ⟨0, 0, 0⟩

/-- The number of characters in the matching blocks, at most `fuel` levels deep. -/
def matchedUpTo : (fuel : Nat) → List Char → List Char → Nat
  | 0, _, _ => 0
  | fuel + 1, as, bs =>
    let run := longestRun as bs
    if run.size = 0 then 0
    else run.size + matchedUpTo fuel (as.take run.left) (bs.take run.right) +
      matchedUpTo fuel (as.drop (run.left + run.size)) (bs.drop (run.right + run.size))

/-- The number of characters in the matching blocks of two lists. -/
def matched (as bs : List Char) : Nat := matchedUpTo (as.length + 1) as bs

/-- A score `numerator / denominator` of similarity. -/
structure Score where
  numerator : Nat
  denominator : Nat
  deriving Repr, DecidableEq

/-- Whether one score is lower than another. -/
def Score.lt (a b : Score) : Bool :=
  a.numerator * b.denominator < b.numerator * a.denominator

/-- The similarity of a known name and an unknown one. -/
def similarity (known unknown : List Char) : Score :=
  ⟨2 * matched known unknown, known.length + unknown.length⟩

/-- Whether one candidate comes before another: the higher score, then the later name. -/
def Score.before (a b : Score × String) : Bool :=
  b.1.lt a.1 || (!a.1.lt b.1 && decide (b.2 ≤ a.2))

/-- At most three of the known names that are similar to the unknown one, best first. -/
def similarNames (unknown : String) (known : List String) : List String :=
  let scored := known.map fun name => (similarity name.toList unknown.toList, name)
  let close := scored.filter fun c => 3 * c.1.denominator ≤ 5 * c.1.numerator
  ((close.mergeSort Score.before).take 3).map (·.2)

end Text
end DeclSearch
