/-
# Character classes as runs

A large class of characters is kept as the increasing list of its boundaries:
`[a, b, c, d]` holds the codes `a ≤ n < b` and `c ≤ n < d`.
-/

namespace DeclSearch
namespace Text

/-- Whether code `n` lies in one of the runs with these boundaries. -/
def inRuns (n : Nat) : List Nat → Bool
  | lo :: hi :: rest => if n < lo then false else if n < hi then true else inRuns n rest
  | [lo] => decide (lo ≤ n)
  | [] => false

end Text
end DeclSearch
