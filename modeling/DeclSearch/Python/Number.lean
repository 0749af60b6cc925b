/-
# Number literals

How many octets of a text form a number literal.  Digits may be grouped by single
underscores; a literal must not run into a letter, except that some keywords may follow
it without a blank between.
-/

import DeclSearch.Text.Integer

namespace DeclSearch
namespace Python
namespace Number

/-- A number literal: its size, and whether it is imaginary. -/
structure Scan where
  size : Nat
  imaginary : Bool
  deriving Repr, DecidableEq

/-- A decimal digit. -/
def isDecimal (c : Char) : Bool := c.isDigit

/-- A hexadecimal digit. -/
def isHex (c : Char) : Bool := c.isDigit || ('a' ≤ c && c ≤ 'f') || ('A' ≤ c && c ≤ 'F')

/-- An octal digit. -/
def isOctal (c : Char) : Bool := '0' ≤ c && c ≤ '7'

/-- A binary digit. -/
def isBinary (c : Char) : Bool := c = '0' || c = '1'

/-- An octet that may continue a name. -/
def isNameOctet (c : Char) : Bool := c.isAlphanum || c = '_' || 128 ≤ c.toNat

/-- The size of a run of digits with single underscores between them, behind `size`
octets already read; `due` says that a digit has to come next. -/
def groupsFrom (isDigit : Char → Bool) (size : Nat) (due : Bool) : List Char → Option Nat
  | [] => if due then none else some size
  | c :: rest =>
    if isDigit c then groupsFrom isDigit (size + 1) false rest
    else if due then none
    else if c = '_' then groupsFrom isDigit (size + 1) true rest
    else some size

/-- The size of a run of digits, at least one, with single underscores between them. -/
def groups (isDigit : Char → Bool) (cs : List Char) : Option Nat := groupsFrom isDigit 0 true cs

/-- The keywords that may follow a number without a blank. -/
def followers : List String := ["and", "else", "for", "or", "not"]

/-- The keywords that may do so even if more of a name stands behind them. -/
def looseFollowers : List String := ["if", "in", "is"]

/-- Whether a number may end in front of a text. -/
def mayEnd (cs : List Char) : Bool :=
  match cs with
  | [] => true
  | c :: _ =>
    !isNameOctet c || looseFollowers.any (fun word => word.toList.isPrefixOf cs) ||
      followers.any fun word =>
        word.toList.isPrefixOf cs && !((cs.drop word.length).head?).any isNameOctet

/-- The end of a number of `size` octets in front of a text, which may hold its `j`. -/
def suffix (size : Nat) (cs : List Char) : Option Scan :=
  match cs with
  | 'j' :: rest | 'J' :: rest => if mayEnd rest then some ⟨size + 1, true⟩ else none
  | _ => if mayEnd cs then some ⟨size, false⟩ else none

/-- The end of a number of `size` octets in front of a text, which may hold its exponent. -/
def exponent (size : Nat) (cs : List Char) : Option Scan :=
  match cs with
  | e :: rest =>
    if e = 'e' ∨ e = 'E' then
      match rest with
      | s :: digits =>
        if s = '+' ∨ s = '-' then do
          let n ← groups isDecimal digits
          suffix (size + 2 + n) (digits.drop n)
        else if isDecimal s then do
          let n ← groups isDecimal rest
          suffix (size + 1 + n) (rest.drop n)
        else if mayEnd cs then some ⟨size, false⟩
        else none
      | [] => none
    else suffix size cs
  | [] => suffix size cs

/-- The end of a number of `size` octets, the last of which is its point. -/
def fraction (size : Nat) (cs : List Char) : Option Scan :=
  if (cs.head?).any isDecimal then do
    let n ← groups isDecimal cs
    exponent (size + n) (cs.drop n)
  else exponent size cs

/-- The end of an integer in another base, behind its two leading octets. -/
def based (isDigit : Char → Bool) (cs : List Char) : Option Scan := do
  let skipped := if cs.head? = some '_' then 1 else 0
  let n ← groups isDigit (cs.drop skipped)
  let rest := cs.drop (skipped + n)
  if (rest.head?).any isDecimal || !mayEnd rest then none else some ⟨2 + skipped + n, false⟩

/-- Whether a decimal integer may be written with these octets: no leading zeros before
other digits. -/
def isInteger (cs : List Char) : Bool :=
  let digits := cs.filter (· ≠ '_')
  digits.head? ≠ some '0' || digits.all (· = '0')

/-- Whether the octets of a number literal are those of a decimal integer with too many digits. -/
def isHuge (cs : List Char) : Bool :=
  cs.all (fun c => isDecimal c || c = '_') && cs.head? ≠ some '0' &&
    decide (Text.longestInteger < (cs.filter (· ≠ '_')).length)

/-- The number literal at the start of a text that starts with a digit. -/
def decimal (cs : List Char) : Option Scan := do
  let n ← groups isDecimal cs
  let rest := cs.drop n
  match rest with
  | '.' :: more => fraction (n + 1) more
  | _ => do
    let scan ← exponent n rest
    if scan.size = n && !scan.imaginary && !isInteger (cs.take n) then none else some scan

/-- The number literal at the start of a text that starts with a digit, or with a point
in front of a digit. -/
def scan? (cs : List Char) : Option Scan :=
  match cs with
  | '.' :: rest => fraction 1 rest
  | '0' :: 'x' :: rest | '0' :: 'X' :: rest => based isHex rest
  | '0' :: 'o' :: rest | '0' :: 'O' :: rest => based isOctal rest
  | '0' :: 'b' :: rest | '0' :: 'B' :: rest => based isBinary rest
  | _ => decimal cs

end Number
end Python
end DeclSearch
