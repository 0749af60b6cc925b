/-
# Compatibility normal form

Names that the character standard holds for the same under compatibility are one name:
`compose ∘ reorder ∘ decompose`.  Decomposition replaces each character by its full
compatibility decomposition, reordering sorts neighbouring marks by their combining
class without moving equal ones past each other, and composition joins a character
with the nearest starter before it where a pair of them has a name and no mark of the
same or a higher class stands between.
-/

import DeclSearch.Text.NormalTable

namespace DeclSearch
namespace Text
namespace Normal

/-- Puts the numbers that a row packs in front of some, the last one first. -/
def unpackOnto : (fuel : Nat) → Nat → List Nat → List Nat
  | 0, _, done => done
  | fuel + 1, row, done =>
    if row = 0 then done else unpackOnto fuel (row / 0x100000) (row % 0x100000 :: done)

/-- The numbers that a row packs, of which there are at most twenty. -/
def unpack (row : Nat) : List Nat := unpackOnto 20 row []

/-- The decompositions of rows, behind those found so far (last one first); `code` is the
character of the last one. -/
def decompositionsOnto : (code : Nat) → List (Nat × List Nat) → List Nat → List (Nat × List Nat)
  | _, found, [] => found
  | code, found, row :: rows =>
    match unpack row with
    | gap :: codes => decompositionsOnto (code + gap) ((code + gap, codes) :: found) rows
    | [] => decompositionsOnto code found rows

/-- The full compatibility decompositions. -/
def decompositions : List (Nat × List Nat) := decompositionsOnto 0 [] decompositionRows

/-- The composition pairs. -/
def compositions : List ((Nat × Nat) × Nat) :=
  compositionRows.filterMap fun row =>
    match unpack row with
    | [first, second, whole] => some ((first, second), whole)
    | _ => none

/-- The combining classes as runs `(first, last, class)`. -/
def combiningRuns : List (Nat × Nat × Nat) :=
  combiningRows.filterMap fun row =>
    match unpack row with
    | [first, last, value] => some (first, last, value)
    | _ => none

/-- The combining class of a code. -/
def combining (n : Nat) : Nat :=
  ((combiningRuns.find? fun r => r.1 ≤ n && n ≤ r.2.1).map (·.2.2)).getD 0

/-- The decomposition of a Hangul syllable into its letters. -/
def hangulParts (n : Nat) : List Nat :=
  let s := n - 0xAC00
  let tail := s % 28
  [0x1100 + s / 588, 0x1161 + s % 588 / 28] ++ if tail = 0 then [] else [0x11A7 + tail]

/-- The full compatibility decomposition of a code. -/
def decompose (n : Nat) : List Nat :=
  if 0xAC00 ≤ n ∧ n ≤ 0xD7A3 then hangulParts n else (decompositions.lookup n).getD [n]

/-- Puts a code behind a reordered list (last one first), past the marks of a higher
class. -/
def placeMark (n : Nat) : List Nat → List Nat
  | [] => [n]
  | m :: rest =>
    if combining n ≠ 0 ∧ combining n < combining m then m :: placeMark n rest else n :: m :: rest

/-- The codes in canonical order. -/
def reorder (codes : List Nat) : List Nat :=
  (codes.foldl (fun done n => placeMark n done) []).reverse

/-- The single code that a starter and a later code form. -/
def composePair? (a b : Nat) : Option Nat :=
  if 0x1100 ≤ a ∧ a < 0x1113 ∧ 0x1161 ≤ b ∧ b < 0x1176 then
    some (0xAC00 + ((a - 0x1100) * 21 + (b - 0x1161)) * 28)
  else if 0xAC00 ≤ a ∧ a ≤ 0xD7A3 ∧ (a - 0xAC00) % 28 = 0 ∧ 0x11A8 ≤ b ∧ b < 0x11C3 then
    some (a + (b - 0x11A7))
  else compositions.lookup (a, b)

/-- A composition under way: the codes before the current starter (last one first), the
starter, and the marks behind it that stayed (last one first). -/
structure Composer where
  before : List Nat
  starter : Option Nat
  marks : List Nat

/-- All codes read so far, last one first. -/
def Composer.read (c : Composer) : List Nat := c.marks ++ c.starter.toList ++ c.before

/-- Reads one code. -/
def Composer.step (c : Composer) (n : Nat) : Composer :=
  let keep : Composer :=
    if combining n = 0 then ⟨c.read, some n, []⟩ else { c with marks := n :: c.marks }
  match c.starter with
  | none => keep
  | some s =>
    let blocked := match c.marks with
      | [] => false
      | m :: _ => combining m = 0 || combining n ≤ combining m
    if blocked then keep
    else match composePair? s n with
      | some whole => { c with starter := some whole }
      | none => keep

/-- The codes with each pair that has a name joined. -/
def compose (codes : List Nat) : List Nat :=
  (codes.foldl Composer.step ⟨[], none, []⟩).read.reverse

end Normal

/-- The compatibility normal form of a text. -/
def normalForm (s : String) : String :=
  if s.toList.all (·.toNat < 128) then s
  else
    let codes := (s.toList.map Char.toNat).flatMap Normal.decompose
    String.ofList ((Normal.compose (Normal.reorder codes)).map Char.ofNat)

end Text
end DeclSearch
