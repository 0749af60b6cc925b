/-
# TOML numbers, dates and times

How many characters of a text form a date with or without a time, a time, or a number.
A date has to exist in the calendar.
-/

import DeclSearch.Descriptor.Toml.Reader
import DeclSearch.Text.Integer

namespace DeclSearch
namespace Descriptor
namespace Toml

/-- The number that `n` digits at the start of a text write, if it starts with them. -/
def digits? (n : Nat) (cs : List Char) : Option Nat :=
  let taken := cs.take n
  if taken.length = n && taken.all Char.isDigit then
    some (taken.foldl (fun v c => 10 * v + (c.toNat - '0'.toNat)) 0)
  else none

/-- What follows a character at the start of a text, if it is there. -/
def behind? (c : Char) : List Char → Option (List Char)
  | d :: rest => if d = c then some rest else none
  | [] => none

/-- The size of a clock time at the start of a text, with its fraction of a second. -/
def timeSize? (cs : List Char) : Option Nat := do
  let hour ← digits? 2 cs
  let rest ← behind? ':' (cs.drop 2)
  let minute ← digits? 2 rest
  let rest ← behind? ':' (rest.drop 2)
  let second ← digits? 2 rest
  if 23 < hour ∨ 59 < minute ∨ 59 < second then none
  else
    match rest.drop 2 with
    | '.' :: more =>
      let fraction := (more.takeWhile Char.isDigit).length
      some (if fraction = 0 then 8 else 9 + fraction)
    | _ => some 8

/-- The size of an offset from universal time at the start of a text, zero if there is
none. -/
def offsetSize (cs : List Char) : Nat :=
  match cs with
  | 'Z' :: _ | 'z' :: _ => 1
  | s :: rest =>
    if s = '+' ∨ s = '-' then
      match digits? 2 rest, behind? ':' (rest.drop 2) with
      | some hour, some more =>
        match digits? 2 more with
        | some minute => if hour ≤ 23 ∧ minute ≤ 59 then 6 else 0
        | none => 0
      | _, _ => 0
    else 0
  | [] => 0

/-- A day of the calendar as it is written. -/
structure Date where
  year : Nat
  month : Nat
  day : Nat
  deriving Repr, DecidableEq

/-- Whether a year has a leap day. -/
def isLeap (year : Nat) : Bool := year % 4 = 0 && (year % 100 ≠ 0 || year % 400 = 0)

/-- The number of days in a month. -/
def daysIn (year month : Nat) : Nat :=
  if month = 2 then (if isLeap year then 29 else 28)
  else if [4, 6, 9, 11].contains month then 30
  else 31

/-- Whether a day exists. -/
def Date.exists (d : Date) : Bool := 1 ≤ d.year && d.day ≤ daysIn d.year d.month

/-- The date at the start of a text, if its month and day are in the range of all months
and days. -/
def date? (cs : List Char) : Option Date := do
  let year ← digits? 4 cs
  let rest ← behind? '-' (cs.drop 4)
  let month ← digits? 2 rest
  let rest ← behind? '-' (rest.drop 2)
  let day ← digits? 2 rest
  if 1 ≤ month ∧ month ≤ 12 ∧ 1 ≤ day ∧ day ≤ 31 then some ⟨year, month, day⟩ else none

/-- The size of what follows a date: a blank or a letter and a time with its offset, zero
if there is none. -/
def dayTimeSize (cs : List Char) : Nat :=
  match cs with
  | mark :: rest =>
    if mark = 'T' ∨ mark = 't' ∨ mark = ' ' then
      match timeSize? rest with
      | some size => 1 + size + offsetSize (rest.drop size)
      | none => 0
    else 0
  | [] => 0

/-- The size of a run of digits with single underscores between them, behind `size`
characters already read. -/
def groupSize (isDigit : Char → Bool) (size : Nat) : List Char → Nat
  | '_' :: d :: rest => if isDigit d then groupSize isDigit (size + 2) rest else size
  | c :: rest => if isDigit c then groupSize isDigit (size + 1) rest else size
  | [] => size

/-- The size of a number in another base at the start of a text. -/
def basedSize? (cs : List Char) : Option Nat :=
  match cs with
  | '0' :: base :: d :: rest =>
    let isDigit : Char → Bool :=
      if base = 'x' then fun c => c.isDigit || ('a' ≤ c && c ≤ 'f') || ('A' ≤ c && c ≤ 'F')
      else if base = 'o' then fun c => '0' ≤ c && c ≤ '7'
      else if base = 'b' then fun c => c = '0' || c = '1'
      else fun _ => false
    if isDigit d then some (groupSize isDigit 3 rest) else none
  | _ => none

/-- The size of a fraction at the start of a text, zero if there is none. -/
def fractionSize (cs : List Char) : Nat :=
  match cs with
  | '.' :: d :: rest => if d.isDigit then groupSize Char.isDigit 2 rest else 0
  | _ => 0

/-- The size of an exponent at the start of a text, zero if there is none. -/
def exponentSize (cs : List Char) : Nat :=
  match cs with
  | e :: rest =>
    if e = 'e' ∨ e = 'E' then
      let sign := match rest with
        | '+' :: _ | '-' :: _ => 1
        | _ => 0
      match rest.drop sign with
      | d :: more => if d.isDigit then groupSize Char.isDigit (2 + sign) more else 0
      | [] => 0
    else 0
  | [] => 0

/-- A decimal number at the start of a text: its size, and the number of its digits if it
is an integer. -/
def decimal? (cs : List Char) : Option (Nat × Option Nat) := do
  let sign := match cs with
    | '+' :: _ | '-' :: _ => 1
    | _ => 0
  let whole ← match cs.drop sign with
    | '0' :: _ => some 1
    | d :: rest => if d.isDigit then some (groupSize Char.isDigit 1 rest) else none
    | [] => none
  let size := sign + whole
  let fraction := fractionSize (cs.drop size)
  let exponent := exponentSize (cs.drop (size + fraction))
  if fraction + exponent = 0 then
    some (size, some (((cs.drop sign).take whole).filter Char.isDigit).length)
  else some (size + fraction + exponent, none)

/-- The words for numbers that are not finite. -/
def wordSize? (cs : List Char) : Option Nat :=
  if ["inf", "nan"].any fun w => w.toList.isPrefixOf cs then some 3
  else if ["-inf", "+inf", "-nan", "+nan"].any fun w => w.toList.isPrefixOf cs then some 4
  else none

/-- Passes a date, a time or a number. -/
def scalar : Reader Unit := do
  let cs := (← get).rest
  match date? cs with
  | some date =>
    if date.exists then pass (10 + dayTimeSize (cs.drop 10)) else problem .date
  | none =>
    match timeSize? cs, basedSize? cs, decimal? cs, wordSize? cs with
    | some size, _, _, _ => pass size
    | _, some size, _, _ => pass size
    | _, _, some (size, digits), _ =>
      let n := digits.getD 0
      if Text.longestInteger < n then problem (.tooManyDigits n) else pass size
    | _, _, _, some size => pass size
    | _, _, _, _ => problem .invalidValue

end Toml
end Descriptor
end DeclSearch
