/-
# Reading JSON texts

A reader for the JSON texts of any writer: blanks stand between all signs, a character of a string
is written as itself or as one of the escapes, a character outside the basic plane as the escapes of
its two surrogates, and a number may have a fraction and an exponent.  Half a surrogate pair is no
character, and a text with anything behind its value is refused (`Json.read?`).

What the reports are written with is read back from the front of any text: a character
(`Json.character?_escapedChar`), a string (`Json.string?_string`), a number
(`Json.number?_toString`), and items between brackets when each of them is (`Json.items?_append`).
-/

import DeclSearch.Descriptor.Toml.Strings
import DeclSearch.Text.Json
import Mathlib.Data.List.Basic

namespace DeclSearch
namespace Text
namespace Json

open Descriptor.Toml (isHex hexValue)

/-- A value that a JSON text stands for.  A number is so many times a power of ten. -/
inductive Datum where
  | null
  | bool (b : Bool)
  | number (n exponent : Int)
  | text (s : String)
  | array (items : List Datum)
  | object (fields : List (String × Datum))
  deriving Repr

/-- A reader takes a value from the front of a text and gives the text behind it. -/
abbrev Reader (α : Type) := List Char → Option (α × List Char)

/-- The blanks between the signs of a JSON text. -/
def isBlank (c : Char) : Bool := c = ' ' || c = '\t' || c = '\n' || c = '\r'

/-- A text behind the blanks in front of it. -/
def skipBlanks (cs : List Char) : List Char := cs.dropWhile isBlank

/-- Reads the four hexadecimal digits of a UTF-16 unit. -/
def unit? : Reader Nat
  | a :: b :: c :: d :: cs =>
    if [a, b, c, d].all isHex then
      some ([a, b, c, d].foldl (fun n digit => 16 * n + hexValue digit) 0, cs)
    else none
  | _ => none

/-- Reads the second half of a surrogate pair behind the first one. -/
def pair? (high : Nat) : Reader Char
  | '\\' :: 'u' :: cs => do
    let (low, cs) ← unit? cs
    if 0xDC00 ≤ low ∧ low ≤ 0xDFFF then
      return (Char.ofNat (0x10000 + (high - 0xD800) * 0x400 + (low - 0xDC00)), cs)
    else none
  | _ => none

/-- Reads an escape behind its backslash. -/
def escape? : Reader Char
  | '"' :: cs => some ('"', cs)
  | '\\' :: cs => some ('\\', cs)
  | '/' :: cs => some ('/', cs)
  | 'b' :: cs => some ('\x08', cs)
  | 'f' :: cs => some ('\x0c', cs)
  | 'n' :: cs => some ('\n', cs)
  | 'r' :: cs => some ('\r', cs)
  | 't' :: cs => some ('\t', cs)
  | 'u' :: cs => do
    let (n, cs) ← unit? cs
    if n < 0xD800 ∨ 0xDFFF < n then return (Char.ofNat n, cs)
    else if n < 0xDC00 then pair? n cs
    else none
  | _ => none

/-- Reads a character of a string. -/
def character? : Reader Char
  | [] => none
  | c :: cs => if c = '\\' then escape? cs else if c.toNat < 32 then none else some (c, cs)

/-- Reads the characters of a string behind its first quote, and the last quote. -/
def characters? : (fuel : Nat) → Reader (List Char)
  | 0, _ => none
  | fuel + 1, cs =>
    if cs.head? = some '"' then some ([], cs.tail)
    else do
      let (c, cs) ← character? cs
      let (others, cs) ← characters? fuel cs
      return (c :: others, cs)

/-- Reads a string. -/
def string? : Reader String
  | '"' :: cs => (characters? cs.length cs).map fun (s, cs) => (String.ofList s, cs)
  | _ => none

/-- Reads digits, at least one. -/
def digits? : Reader (List Char) := fun cs =>
  if (cs.takeWhile Char.isDigit).isEmpty then none
  else some (cs.takeWhile Char.isDigit, cs.dropWhile Char.isDigit)

/-- Reads the digits of a whole number, which start with a zero only if it is all there is. -/
def whole? : Reader (List Char) := fun cs =>
  if cs.head? = some '0' then some (['0'], cs.tail) else digits? cs

/-- Reads the digits of a fraction, if there is one. -/
def fraction? : Reader (List Char) := fun cs =>
  if cs.head? = some '.' then digits? cs.tail else some ([], cs)

/-- The number with some decimal digits. -/
def ofDigits (digits : List Char) : Nat := Nat.ofDigitChars 10 digits 0

/-- Reads an exponent behind its letter. -/
def power? : Reader Int := fun cs =>
  if cs.head? = some '-' then (digits? cs.tail).map fun (ds, cs) => (-(ofDigits ds : Int), cs)
  else if cs.head? = some '+' then (digits? cs.tail).map fun (ds, cs) => ((ofDigits ds : Int), cs)
  else (digits? cs).map fun (ds, cs) => ((ofDigits ds : Int), cs)

/-- Reads an exponent, if there is one. -/
def exponent? : Reader Int := fun cs =>
  if cs.head? = some 'e' ∨ cs.head? = some 'E' then power? cs.tail else some (0, cs)

/-- Reads a number without a sign. -/
def unsigned? : Reader (Nat × Int) := fun cs => do
  let (whole, cs) ← whole? cs
  let (fraction, cs) ← fraction? cs
  let (exponent, cs) ← exponent? cs
  return ((ofDigits (whole ++ fraction), exponent - fraction.length), cs)

/-- Reads a number. -/
def number? : Reader Datum := fun cs =>
  if cs.head? = some '-' then
    (unsigned? cs.tail).map fun ((n, exponent), cs) => (.number (-n) exponent, cs)
  else (unsigned? cs).map fun ((n, exponent), cs) => (.number n exponent, cs)

/-- Reads one of the three words. -/
def word? : Reader Datum
  | 'n' :: 'u' :: 'l' :: 'l' :: cs => some (.null, cs)
  | 't' :: 'r' :: 'u' :: 'e' :: cs => some (.bool true, cs)
  | 'f' :: 'a' :: 'l' :: 's' :: 'e' :: cs => some (.bool false, cs)
  | _ => none

/-- Reads items with commas between them, at least one, and the closing bracket. -/
def someItems? {α : Type} (item : Reader α) (close : Char) : (fuel : Nat) → Reader (List α)
  | 0, _ => none
  | fuel + 1, cs => do
    let (first, cs) ← item cs
    let cs := skipBlanks cs
    if cs.head? = some close then return ([first], cs.tail)
    else if cs.head? = some ',' then
      let (others, cs) ← someItems? item close fuel cs.tail
      return (first :: others, cs)
    else none

/-- Reads items with commas between them, perhaps none, and the closing bracket. -/
def items? {α : Type} (item : Reader α) (close : Char) : Reader (List α) := fun cs =>
  if (skipBlanks cs).head? = some close then some ([], (skipBlanks cs).tail)
  else someItems? item close cs.length cs

/-- Reads a field of an object. -/
def field? (value : Reader Datum) : Reader (String × Datum) := fun cs => do
  let (name, cs) ← string? (skipBlanks cs)
  let cs := skipBlanks cs
  if cs.head? = some ':' then
    let (v, cs) ← value cs.tail
    return ((name, v), cs)
  else none

/-- Reads a value, nested at most `fuel` levels deep, behind the blanks in front of it. -/
def value? : (fuel : Nat) → Reader Datum
  | 0, _ => none
  | fuel + 1, cs =>
    match skipBlanks cs with
    | [] => none
    | c :: cs =>
      if c = '"' then (string? (c :: cs)).map fun (s, cs) => (.text s, cs)
      else if c = '[' then (items? (value? fuel) ']' cs).map fun (items, cs) => (.array items, cs)
      else if c = '\x7b' then
        (items? (field? (value? fuel)) '\x7d' cs).map fun (fields, cs) => (.object fields, cs)
      else if c = '-' || c.isDigit then number? (c :: cs)
      else word? (c :: cs)

/-- The value of a JSON text, if it is one. -/
def read? (s : String) : Option Datum := do
  let (v, rest) ← value? (s.length + 1) s.toList
  if (skipBlanks rest).isEmpty then return v else none

/-- Another writer's text is read as well: with other blanks, with an exponent and with other
escapes. -/
example : read? "[ 1.50e+2,\"\\u00E9\\/\" ,true]" =
    some (.array [.number 150 0, .text "é/", .bool true]) := by
  rfl

/-- A hexadecimal digit has its value. -/
theorem hexValue_digitChar {d : Nat} (h : d < 16) :
    isHex (Nat.digitChar d) = true ∧ hexValue (Nat.digitChar d) = d := by
  revert d
  decide

/-- **A unit is read back.** -/
theorem unit?_hexDigits {n : Nat} (h : n < 0x10000) (rest : List Char) :
    unit? (hexDigits 4 n ++ rest) = some (n, rest) := by
  have hdigit (k : Nat) := hexValue_digitChar (Nat.mod_lt k (by decide : 16 > 0))
  have hvalue : 16 * (16 * (16 * (16 * 0 + n / 16 / 16 / 16 % 16) + n / 16 / 16 % 16) +
      n / 16 % 16) + n % 16 = n := by omega
  simp only [hexDigits, List.nil_append, List.cons_append, unit?, List.all_cons, List.all_nil,
    (hdigit _).1, (hdigit _).2, List.foldl_cons, List.foldl_nil, hvalue, Bool.and_self, if_true]

/-- **A character is read back.** -/
theorem character?_escapedChar (c : Char) (rest : List Char) :
    character? (escapedChar c ++ rest) = some (c, rest) := by
  have hvalid : c.toNat < 0xD800 ∨ 0xDFFF < c.toNat ∧ c.toNat < 0x110000 := c.valid
  unfold escapedChar
  dsimp only
  split_ifs with hquote hbackslash hfeed hreturn htab hback hform hprintable hbasic
  · rw [hquote]; rfl
  · rw [hbackslash]; rfl
  · rw [hfeed]; rfl
  · rw [hreturn]; rfl
  · rw [htab]; rfl
  · rw [← c.ofNat_toNat, hback]; rfl
  · rw [← c.ofNat_toNat, hform]; rfl
  · have hplain : ¬ c.toNat < 32 := by omega
    simp [character?, hbackslash, hplain]
  · have hscalar : c.toNat < 0xD800 ∨ 0xDFFF < c.toNat := by omega
    simp [character?, escapedUnit, escape?, unit?_hexDigits hbasic, hscalar, c.ofNat_toNat]
  · obtain ⟨high, hhigh⟩ : ∃ high, high = 0xD800 + (c.toNat - 0x10000) / 0x400 := ⟨_, rfl⟩
    obtain ⟨low, hlow⟩ : ∃ low, low = 0xDC00 + (c.toNat - 0x10000) % 0x400 := ⟨_, rfl⟩
    have hfirst : ¬ (high < 0xD800 ∨ 0xDFFF < high) := by omega
    have hhalf : high < 0xDC00 := by omega
    have hsecond : 0xDC00 ≤ low ∧ low ≤ 0xDFFF := by omega
    have hwhole : 0x10000 + (high - 0xD800) * 0x400 + (low - 0xDC00) = c.toNat := by omega
    rw [← hhigh, ← hlow]
    simp [character?, escapedUnit, escape?, unit?_hexDigits (show high < 0x10000 by omega), hfirst,
      hhalf, pair?, unit?_hexDigits (show low < 0x10000 by omega), hsecond, hwhole, c.ofNat_toNat]

/-- No character is written with a quote in front. -/
theorem head?_escapedChar (c : Char) (rest : List Char) :
    (escapedChar c ++ rest).head? ≠ some '"' := by
  unfold escapedChar
  dsimp only
  split_ifs with hquote
  all_goals simp_all [escapedUnit]

/-- The characters of a string are read back. -/
theorem characters?_flatMap (cs rest : List Char) {fuel : Nat} (hfuel : cs.length < fuel) :
    characters? fuel (cs.flatMap escapedChar ++ '"' :: rest) = some (cs, rest) := by
  induction cs generalizing fuel with
  | nil =>
    obtain ⟨fuel, rfl⟩ := Nat.exists_eq_succ_of_ne_zero (Nat.ne_of_gt hfuel)
    simp [characters?]
  | cons c cs ih =>
    obtain ⟨fuel, rfl⟩ := Nat.exists_eq_succ_of_ne_zero (Nat.ne_of_gt (Nat.zero_lt_of_lt hfuel))
    rw [List.flatMap_cons, List.append_assoc, characters?, if_neg (head?_escapedChar c _),
      character?_escapedChar]
    simp [ih (Nat.lt_of_succ_lt_succ hfuel)]

/-- No string is longer than its characters are written. -/
theorem length_le_flatMap (cs : List Char) : cs.length ≤ (cs.flatMap escapedChar).length := by
  induction cs with
  | nil => exact Nat.le_refl 0
  | cons c cs ih =>
    have hsome : (escapedChar c).length ≠ 0 := by
      intro hnone
      have hread := character?_escapedChar c []
      rw [List.length_eq_zero_iff.1 hnone] at hread
      exact nomatch hread
    rw [List.flatMap_cons, List.length_append, List.length_cons]
    omega

/-- **A string is read back.** -/
theorem string?_string (s : String) (rest : List Char) :
    string? (string s ++ rest) = some (s, rest) := by
  have hlength := length_le_flatMap s.toList
  rw [string, List.append_assoc, List.cons_append, List.cons_append, List.nil_append, string?,
    characters?_flatMap _ _ (by rw [List.length_append, List.length_cons]; omega)]
  simp

/-- The characters that a number may go on with. -/
def isNumberChar (c : Char) : Bool := c.isDigit || c = '.' || c = 'e' || c = 'E'

/-- Whether a number that stands in front of a text ends there. -/
def EndsNumber (rest : List Char) : Prop := ∀ c ∈ rest.head?, isNumberChar c = false

/-- Digits are read up to the first character that is none. -/
theorem digits?_append {digits rest : List Char} (hdigits : ∀ c ∈ digits, c.isDigit = true)
    (hsome : digits ≠ []) (hrest : EndsNumber rest) :
    digits? (digits ++ rest) = some (digits, rest) := by
  have hstop : rest.takeWhile Char.isDigit = [] ∧ rest.dropWhile Char.isDigit = rest := by
    rcases rest with _ | ⟨c, rest⟩
    · exact ⟨rfl, rfl⟩
    · have hc : c.isDigit = false := by
        have hnumber := hrest c rfl
        simp only [isNumberChar, Bool.or_eq_false_iff] at hnumber
        exact hnumber.1.1.1
      simp [hc]
  rw [digits?, List.takeWhile_append_of_pos hdigits, List.dropWhile_append_of_pos hdigits, hstop.1,
    hstop.2, List.append_nil, if_neg (by simpa using hsome)]

/-- A number that is not zero is written without a zero in front. -/
theorem head?_toDigits {n : Nat} (h : 0 < n) : (Nat.toDigits 10 n).head? ≠ some '0' := by
  induction n using Nat.strongRecOn with
  | ind n ih =>
    rw [Nat.toDigits_eq_if (by decide)]
    split
    · next hsmall => simpa using Nat.ne_of_gt h
    · next hlarge =>
      rw [List.head?_append_of_ne_nil _ Nat.toDigits_ne_nil]
      exact ih (n / 10) (by omega) (by omega)

/-- A number without a sign is read back. -/
theorem unsigned?_toDigits (n : Nat) {rest : List Char} (hrest : EndsNumber rest) :
    unsigned? (Nat.toDigits 10 n ++ rest) = some ((n, 0), rest) := by
  have hwhole : whole? (Nat.toDigits 10 n ++ rest) = some (Nat.toDigits 10 n, rest) := by
    rcases Nat.eq_zero_or_pos n with rfl | hpos
    · rfl
    · have hhead : (Nat.toDigits 10 n ++ rest).head? ≠ some '0' := by
        rw [List.head?_append_of_ne_nil _ Nat.toDigits_ne_nil]
        exact head?_toDigits hpos
      rw [whole?, if_neg hhead]
      exact digits?_append (fun c => Nat.isDigit_of_mem_toDigits (by decide) (by decide))
        Nat.toDigits_ne_nil hrest
  have hno {c : Char} (hc : isNumberChar c = true) : rest.head? ≠ some c := by
    intro hhead
    exact Bool.noConfusion (hc.symm.trans (hrest c hhead))
  have hfraction : fraction? rest = some ([], rest) := if_neg (hno (by decide))
  have hexponent : exponent? rest = some (0, rest) := if_neg (not_or.2 ⟨hno rfl, hno rfl⟩)
  simp [unsigned?, hwhole, hfraction, hexponent, ofDigits, Nat.ofDigitChars_ten_toDigits]

/-- A number starts with its sign or with a digit. -/
theorem exists_toString_eq_cons (n : Int) :
    ∃ c cs, (toString n).toList = c :: cs ∧ (c = '-' || c.isDigit) = true := by
  have hnat (m : Nat) : ∃ c cs, m.repr.toList = c :: cs ∧ c.isDigit = true := by
    obtain ⟨c, cs, hcs⟩ := List.exists_cons_of_ne_nil (Nat.toDigits_ne_nil (n := m) (b := 10))
    refine ⟨c, cs, Nat.toList_repr.trans hcs, Nat.isDigit_of_mem_toDigits (b := 10) (n := m)
      (by decide) (by decide) (by simp [hcs])⟩
  rw [Int.toString_eq_repr, Int.repr_eq_if]
  split
  · obtain ⟨c, cs, hcs, hc⟩ := hnat n.toNat
    exact ⟨c, cs, hcs, by simp [hc]⟩
  · exact ⟨'-', _, String.toList_append, rfl⟩

/-- **A number is read back.** -/
theorem number?_toString (n : Int) {rest : List Char} (hrest : EndsNumber rest) :
    number? ((toString n).toList ++ rest) = some (.number n 0, rest) := by
  rw [Int.toString_eq_repr, Int.repr_eq_if]
  split
  · next hpos =>
    have hhead : (n.toNat.repr.toList ++ rest).head? ≠ some '-' := by
      rw [Nat.toList_repr, List.head?_append_of_ne_nil _ Nat.toDigits_ne_nil]
      intro hminus
      exact absurd (Nat.isDigit_of_mem_toDigits (by decide) (by decide)
        (List.mem_of_head? hminus)) (by decide)
    rw [number?, if_neg hhead, Nat.toList_repr, unsigned?_toDigits _ hrest]
    simp [Int.toNat_of_nonneg hpos]
  · next hneg =>
    have hvalue : -((-n).toNat : Int) = n := by omega
    rw [String.toList_append, Nat.toList_repr]
    change (unsigned? (Nat.toDigits 10 (-n).toNat ++ rest)).map _ = _
    rw [unsigned?_toDigits _ hrest]
    simp only [Option.map_some, hvalue]

/-- Different numbers are written differently, as each of them is read back. -/
theorem eq_of_toString_eq {n m : Int} (h : toString n = toString m) : n = m := by
  have hends : EndsNumber [] := nofun
  have hread : number? ((toString n).toList ++ []) = some (.number n 0, []) :=
    number?_toString n hends
  rw [h, number?_toString m hends] at hread
  simpa using hread.symm

/-- Blanks in front of a text are passed over. -/
theorem skipBlanks_append {blanks : List Char} (h : ∀ c ∈ blanks, isBlank c = true)
    (rest : List Char) : skipBlanks (blanks ++ rest) = skipBlanks rest :=
  List.dropWhile_append_of_pos h

/-- A text that starts with another character than a blank is read from there. -/
theorem skipBlanks_cons {c : Char} (h : isBlank c = false) (rest : List Char) :
    skipBlanks (c :: rest) = c :: rest :=
  List.dropWhile_cons_of_neg (by simp [h])

/-- A new line and its indentation are blank. -/
theorem isBlank_of_mem_newLine {level : Nat} : ∀ c ∈ newLine level, isBlank c = true := by
  rw [newLine, List.forall_mem_cons]
  refine ⟨by decide, fun c hc => ?_⟩
  rw [List.eq_of_mem_replicate hc]
  decide

/-- A line break ends a number, and so does a comma. -/
theorem endsNumber_newLine (level : Nat) (rest : List Char) :
    EndsNumber (newLine level ++ rest) := by
  rintro c ⟨⟩
  decide

/-- A comma ends a number. -/
theorem endsNumber_comma (rest : List Char) : EndsNumber (',' :: rest) := by
  rintro c ⟨⟩
  decide

section Items

variable {α β : Type} {item : Reader α} {close : Char} {text : β → List Char} {value : β → α}
  {items : List β}

/-- Items with commas between them are read back when each of them is. -/
theorem someItems?_append (hclose : isBlank close = false) (hcomma : close ≠ ',')
    (hitem : ∀ x ∈ items, ∀ rest, EndsNumber rest → item (text x ++ rest) = some (value x, rest))
    (hsome : items ≠ []) {fuel : Nat} (hfuel : items.length ≤ fuel) (level : Nat)
    (rest : List Char) :
    someItems? item close fuel
        (List.intercalate [','] (items.map text) ++ (newLine level ++ close :: rest)) =
      some (items.map value, rest) := by
  induction items generalizing fuel with
  | nil => exact absurd rfl hsome
  | cons x others ih =>
    obtain ⟨fuel, rfl⟩ := Nat.exists_eq_succ_of_ne_zero (Nat.ne_of_gt (Nat.zero_lt_of_lt hfuel))
    obtain ⟨hx, hothers⟩ := List.forall_mem_cons.1 hitem
    rcases others with _ | ⟨next, others⟩
    · rw [List.map_singleton, List.intercalate_singleton, someItems?,
        hx _ (endsNumber_newLine level _)]
      simp [skipBlanks_append isBlank_of_mem_newLine, skipBlanks_cons hclose]
    · rw [List.map_cons, List.map_cons, List.intercalate_cons_cons, List.append_assoc,
        List.append_assoc, someItems?, List.singleton_append, hx _ (endsNumber_comma _)]
      have hrest := ih hothers (List.cons_ne_nil next others) (Nat.le_of_succ_le_succ hfuel)
      rw [List.map_cons] at hrest
      simp [skipBlanks_cons (by decide : isBlank ',' = false), hcomma.symm, hrest]

/-- Every comma between two items takes a character. -/
theorem length_le_intercalate (texts : List (List Char)) :
    texts.length ≤ (List.intercalate [','] texts).length + 1 := by
  induction texts with
  | nil => simp
  | cons first others ih =>
    rcases others with _ | ⟨next, others⟩
    · simp
    · rw [List.intercalate_cons_cons, List.length_append, List.length_append, List.length_singleton,
        List.length_cons]
      omega

/-- **Items in brackets are read back** when each of them is, and none of them starts like the
closing bracket. -/
theorem items?_append (hclose : isBlank close = false) (hcomma : close ≠ ',')
    (hitem : ∀ x ∈ items, ∀ rest, EndsNumber rest → item (text x ++ rest) = some (value x, rest))
    (hstart : ∀ x ∈ items, ∀ rest, (skipBlanks (text x ++ rest)).head? ≠ some close)
    (hsome : items ≠ []) (level : Nat) (rest : List Char) :
    items? item close
        (List.intercalate [','] (items.map text) ++ (newLine level ++ close :: rest)) =
      some (items.map value, rest) := by
  rw [items?, if_neg, someItems?_append hclose hcomma hitem hsome]
  · have hlength := length_le_intercalate (items.map text)
    rw [List.length_map] at hlength
    rw [List.length_append, List.length_append, List.length_cons]
    omega
  · rcases items with _ | ⟨x, others⟩
    · exact absurd rfl hsome
    · rcases others with _ | ⟨next, others⟩
      · rw [List.map_singleton, List.intercalate_singleton]
        exact hstart x List.mem_cons_self _
      · rw [List.map_cons, List.map_cons, List.intercalate_cons_cons, List.append_assoc,
          List.append_assoc]
        exact hstart x List.mem_cons_self _

end Items

end Json
end Text
end DeclSearch
