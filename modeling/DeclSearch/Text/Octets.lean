/-
# Octets

Bytes shown as characters of the same number.  Source code is read as octets, so that a
column is the number of bytes in front of it, and ASCII characters can be compared
with octets directly.
-/

import DeclSearch.Text.Utf8

namespace DeclSearch
namespace Text

/-- A byte as the character of the same number. -/
def octet (b : UInt8) : Char := Char.ofNat b.toNat

/-- The octets of a run of bytes. -/
def octetsOf (bytes : Bytes) : List Char := bytes.map octet

/-- The bytes that octets stand for. -/
def bytesOf (octets : List Char) : Bytes := octets.map fun c => UInt8.ofNat c.toNat

/-- An octet outside ASCII. -/
def isHigh (c : Char) : Bool := 128 ≤ c.toNat

/-- The characters that octets encode in UTF-8, if they do. -/
def charsOf? (octets : List Char) : Option (List Char) :=
  if octets.any isHigh then (Utf8.decode (bytesOf octets)).toOption else some octets

/-- The octets that encode characters in UTF-8. -/
def octetsOfChars (cs : List Char) : List Char := octetsOf (Utf8.encode cs)

end Text
end DeclSearch
