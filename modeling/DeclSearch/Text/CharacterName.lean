/-
# Names of characters

Whether a text names a character.  Letter case does not count.  The names of most
characters are known by their digests, so a text that is no name is taken for one only
if it shares the digest of a name; the table holds one digest in a million.  The names
of two families are made by rule and have to be in capitals: a Hangul syllable is
named by the short names of its two or three letters, a unified ideograph by its code.
-/

import DeclSearch.Text.CharacterNameTable
import DeclSearch.Text.Runs

namespace DeclSearch
namespace Text

/-- The modulus of digests: the largest prime number below `2 ^ 35`. -/
def digestModulus : Nat := 34359738337

/-- The digest of a text. -/
def digest (cs : List Char) : Nat :=
  cs.foldl (fun d c => (d * 131 + c.toNat) % digestModulus) 0 * 48271 % digestModulus

/-- The sign for a number below 64. -/
def sign64 (n : Nat) : Char :=
  if n < 26 then Char.ofNat (65 + n)
  else if n < 52 then Char.ofNat (71 + n)
  else if n < 62 then Char.ofNat (n - 4)
  else if n = 62 then '+'
  else '/'

/-- Whether a row of groups of four signs holds a group. -/
def holdsGroup (group : List Char) : List Char → Bool
  | a :: b :: c :: d :: rest => [a, b, c, d] == group || holdsGroup group rest
  | _ => false

/-- Whether the table of names holds a digest. -/
def isNameDigest (d : Nat) : Bool :=
  let high := d / nameRows.length
  let group := [high / 262144 % 64, high / 4096 % 64, high / 64 % 64, high % 64].map sign64
  holdsGroup group (nameRows.getD (d % nameRows.length) "").toList

/-- The short names of the letters that a Hangul syllable starts with. -/
def leadNames : List String := [
  "G", "GG", "N", "D", "DD", "R", "M", "B", "BB", "S", "SS", "", "J", "JJ", "C", "K", "T",
  "P", "H"]

/-- The short names of the vowels of a Hangul syllable. -/
def vowelNames : List String := [
  "A", "AE", "YA", "YAE", "EO", "E", "YEO", "YE", "O", "WA", "WAE", "OE", "YO", "U", "WEO",
  "WE", "WI", "YU", "EU", "YI", "I"]

/-- The short names of the letters that a Hangul syllable ends with. -/
def tailNames : List String := [
  "", "G", "GG", "GS", "N", "NJ", "NH", "D", "L", "LG", "LM", "LB", "LS", "LT", "LP", "LH",
  "M", "B", "BS", "S", "SS", "NG", "J", "C", "K", "T", "P", "H"]

/-- What follows the longest of some names at the start of a text. -/
def afterLongest? (names : List String) (cs : List Char) : Option (List Char) :=
  let lengths := (names.filter fun name => name.toList.isPrefixOf cs).map String.length
  (lengths.max?).map cs.drop

/-- Whether a text is made of the short names of the letters of a Hangul syllable. -/
def isSyllable (cs : List Char) : Bool :=
  match ((afterLongest? leadNames cs).bind (afterLongest? vowelNames)).bind
    (afterLongest? tailNames) with
  | some rest => rest.isEmpty
  | none => false

/-- Boundaries of the runs of unified ideographs. -/
def ideographBounds : List Nat := [
  0x3400, 0x4DC0, 0x4E00, 0xA000, 0x20000, 0x2A6E0, 0x2A700, 0x2B739, 0x2B740, 0x2B81E, 0x2B820,
  0x2CEA2, 0x2CEB0, 0x2EBE1, 0x30000, 0x3134B]

/-- Whether a text is the code of a unified ideograph. -/
def isIdeographCode (cs : List Char) : Bool :=
  let value (c : Char) := if c.isDigit then c.toNat - 48 else c.toNat - 55
  (cs.length = 4 || cs.length = 5) && cs.all (fun c => c.isDigit || ('A' ≤ c && c ≤ 'F')) &&
    inRuns (cs.foldl (fun n c => 16 * n + value c) 0) ideographBounds

/-- Whether a text is the name of a character. -/
def isCharacterName (cs : List Char) : Bool :=
  let syllable := "HANGUL SYLLABLE ".toList
  let ideograph := "CJK UNIFIED IDEOGRAPH-".toList
  if syllable.isPrefixOf cs then isSyllable (cs.drop syllable.length)
  else if ideograph.isPrefixOf cs then isIdeographCode (cs.drop ideograph.length)
  else isNameDigest (digest (cs.map Char.toUpper))

end Text
end DeclSearch
