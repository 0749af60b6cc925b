/-
# Reading integers

An integer is an optional sign and decimal digits, of any script, with single
underscores allowed between two digits; blanks around it are ignored.  A text of more
than `longestInteger` digits is refused.
-/

import DeclSearch.Text.Blank

namespace DeclSearch
namespace Text

/-- The zeros of the scripts that have decimal digits; nine more digits follow each. -/
def digitZeros : List Nat := [
  48, 1632, 1776, 1984, 2406, 2534, 2662, 2790, 2918, 3046, 3174, 3302, 3430, 3558, 3664, 3792,
  3872, 4160, 4240, 6112, 6160, 6470, 6608, 6784, 6800, 6992, 7088, 7232, 7248, 42528, 43216,
  43264, 43472, 43504, 43600, 44016, 65296, 66720, 68912, 69734, 69872, 69942, 70096, 70384,
  70736, 70864, 71248, 71360, 71472, 71904, 72016, 72784, 73040, 73120, 92768, 92864, 93008,
  120782, 120792, 120802, 120812, 120822, 123200, 123632, 125264, 130032]

/-- The value of a decimal digit of any script. -/
def digitValue? (c : Char) : Option Nat :=
  (digitZeros.find? fun z => z ≤ c.toNat && c.toNat < z + 10).map (c.toNat - ·)

/-- The blanks that may surround an integer. -/
def isIntegerBlank (c : Char) : Bool := isBlank c && !(28 ≤ c.toNat && c.toNat ≤ 31)

/-- How many digits an integer may have. -/
def longestInteger : Nat := 4300

/-- The digits' values, with single underscores between digits left out. -/
def digitValues? : List Char → Option (List Nat)
  | [] => none
  | [c] => (digitValue? c).map ([·])
  | c :: '_' :: rest => do return (← digitValue? c) :: (← digitValues? rest)
  | c :: rest => do return (← digitValue? c) :: (← digitValues? rest)

/-- The number with these decimal digits, first one highest. -/
def ofDigits (digits : List Nat) : Nat := digits.foldl (fun n d => 10 * n + d) 0

/-- The unsigned integer that the characters write. -/
def readNat? (cs : List Char) : Option Nat := do
  let digits ← digitValues? cs
  if longestInteger < digits.length then none else some (ofDigits digits)

/-- The integer that a text writes. -/
def readInt? (s : String) : Option Int :=
  let body := (s.toList.dropWhile isIntegerBlank).reverse.dropWhile isIntegerBlank |>.reverse
  match body with
  | '+' :: digits => (readNat? digits).map Int.ofNat
  | '-' :: digits => (readNat? digits).map fun n => -Int.ofNat n
  | digits => (readNat? digits).map Int.ofNat

end Text
end DeclSearch
