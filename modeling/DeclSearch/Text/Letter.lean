/-
# Letter case

Full case mapping of texts, by the character standard and never by locale.  `lower`
maps each character to its lower case, which is longer only for `U+0130`; a capital
sigma becomes the final form when a cased letter stands before it and none after it,
looking through the characters that may occur inside a word.  `upper` maps each
character to its full upper case.

`sameLetter` is the equality used where case is ignored character by character: two
characters agree when their simple lower cases are equal or share one upper case.
-/

import DeclSearch.Text.Runs
import DeclSearch.Text.CaseTable
import DeclSearch.Text.SigmaTable

namespace DeclSearch
namespace Text

/-- The image of code `n` under the first run that holds it. -/
def CaseRun.find? (n : Nat) : List CaseRun → Option Nat
  | [] => none
  | r :: rest =>
    if n < r.first ∨ r.last < n ∨ (n - r.first) % r.stride ≠ 0 then find? n rest
    else some (r.image + (n - r.first))

/-- The lower case of one character, as one character. -/
def lowerChar (c : Char) : Char :=
  let n := c.toNat
  if n < 128 then (if 65 ≤ n ∧ n ≤ 90 then Char.ofNat (n + 32) else c)
  else if n = 0x130 then 'i'
  else ((CaseRun.find? n lowerRuns).map Char.ofNat).getD c

/-- The full upper case of one character. -/
def upperChars (c : Char) : List Char :=
  let n := c.toNat
  if n < 128 then (if 97 ≤ n ∧ n ≤ 122 then [Char.ofNat (n - 32)] else [c])
  else match upperExpansions.lookup n with
    | some codes => codes.map Char.ofNat
    | none => [((CaseRun.find? n upperRuns).map Char.ofNat).getD c]

/-- A cased character that is not looked through. -/
def isCased (c : Char) : Bool :=
  let n := c.toNat
  if n < 128 then c.isAlpha else inRuns n casedBounds

/-- A character that is looked through when the letters around a sigma are sought. -/
def isCaseIgnorable (c : Char) : Bool := inRuns c.toNat ignorableBounds

/-- Whether the first character that is not looked through is cased. -/
def startsCased (cs : List Char) : Bool := ((cs.dropWhile isCaseIgnorable).head?).any isCased

/-- The lower case of one character between the text before it, nearest character
first, and the text after it. -/
def lowerAt (before : List Char) (c : Char) (after : List Char) : List Char :=
  if c = 'Σ' then
    if startsCased before && !startsCased after then ['ς'] else ['σ']
  else if c.toNat = 0x130 then ['i', Char.ofNat 0x307]
  else [lowerChar c]

/-- Lower-cases the rest of a text onto what stands before it; both the text before and
the result so far are kept nearest character first. -/
def lowerOnto (before done : List Char) : List Char → List Char
  | [] => done.reverse
  | c :: rest => lowerOnto (c :: before) ((lowerAt before c rest).reverse ++ done) rest

/-- The full lower case of a list of characters. -/
def lowerChars (cs : List Char) : List Char := lowerOnto [] [] cs

/-- The full lower case of a text. -/
def lower (s : String) : String := String.ofList (lowerChars s.toList)

/-- The full upper case of a text. -/
def upper (s : String) : String := String.ofList (s.toList.flatMap upperChars)

/-- Lower-case characters that share their upper case with another one, in families. -/
def sharedUpperFamilies : List (List Nat) := [
  [0x69, 0x131], [0x73, 0x17F], [0xB5, 0x3BC], [0x345, 0x3B9, 0x1FBE], [0x390, 0x1FD3],
  [0x3B0, 0x1FE3], [0x3B2, 0x3D0], [0x3B5, 0x3F5], [0x3B8, 0x3D1], [0x3BA, 0x3F0],
  [0x3C0, 0x3D6], [0x3C1, 0x3F1], [0x3C2, 0x3C3], [0x3C6, 0x3D5], [0x432, 0x1C80],
  [0x434, 0x1C81], [0x43E, 0x1C82], [0x441, 0x1C83], [0x442, 0x1C84, 0x1C85], [0x44A, 0x1C86],
  [0x463, 0x1C87], [0x1C88, 0xA64B], [0x1E61, 0x1E9B], [0xFB05, 0xFB06]]

/-- Equality of characters up to case. -/
def sameLetter (a b : Char) : Bool :=
  let x := lowerChar a
  let y := lowerChar b
  x == y || sharedUpperFamilies.any fun family => family.contains x.toNat && family.contains y.toNat

end Text
end DeclSearch
