/-
# Reports that are plain

Taking the control sequences out of a text leaves alone what holds no escape character
(`Text.plain_of_notMem`).  A JSON text is printable ASCII and line breaks, so nothing is taken out
of it (`Text.Json.plain_render`).  A message that stands between a front without escape characters
and a line break is made plain on its own (`Text.plain_line`).
-/

import DeclSearch.Report
import DeclSearch.Text.Plain
import Mathlib.Data.List.Basic

namespace DeclSearch
namespace Text

/-- A control sequence starts with an escape character. -/
theorem afterSequence?_eq_none {c : Char} (h : c ≠ '\x1b') (cs : List Char) :
    afterSequence? (c :: cs) = none := by
  unfold afterSequence?
  split
  · next heq => exact absurd (List.cons.inj heq).1 h
  · rfl

/-- A character that starts no sequence stays. -/
theorem plainOnto_cons {c : Char} {cs : List Char} (h : afterSequence? (c :: cs) = none)
    (left : List Char) : plainOnto left (c :: cs) = plainOnto (c :: left) cs := by
  rw [plainOnto]
  split
  · next after hafter => cases h.symm.trans hafter
  · rfl

/-- What holds no escape character stays. -/
theorem plainOnto_append {cs : List Char} (h : '\x1b' ∉ cs) (left rest : List Char) :
    plainOnto left (cs ++ rest) = plainOnto (cs.reverse ++ left) rest := by
  induction cs generalizing left with
  | nil => rfl
  | cons c cs ih =>
    obtain ⟨hc, hcs⟩ := not_or.1 (mt List.mem_cons.2 h)
    rw [List.cons_append, plainOnto_cons (afterSequence?_eq_none (Ne.symm hc) _), ih hcs]
    simp

/-- **A text without escape characters is plain.** -/
theorem plain_of_notMem {s : String} (h : '\x1b' ∉ s.toList) : plain s = s := by
  have hall := plainOnto_append h [] []
  rw [List.append_nil] at hall
  rw [plain, hall, plainOnto]
  simp

/-- A sequence starts with an escape character and a bracket. -/
theorem afterSequence?_eq (cs : List Char) :
    afterSequence? cs =
      if ['\x1b', '['] <+: cs then
        match (cs.drop 2).dropWhile isSequenceParameter with
        | c :: after => if c.isAlpha then some after else none
        | [] => none
      else none := by
  unfold afterSequence?
  split
  · next rest => rw [if_pos ⟨rest, rfl⟩]; rfl
  · next hother =>
    rw [if_neg]
    rintro ⟨rest, rfl⟩
    exact hother rest rfl

/-- A sequence is taken out. -/
theorem plainOnto_of_sequence {cs after : List Char} (h : afterSequence? cs = some after)
    (left : List Char) : plainOnto left cs = plainOnto left after := by
  rcases cs with _ | ⟨c, rest⟩
  · cases h
  · rw [plainOnto]
    split
    · next after' hafter' => rw [Option.some.inj (h.symm.trans hafter')]
    · next hnone => cases hnone.symm.trans h

/-- What is left of a text does not depend on what was left before it. -/
theorem plainOnto_append_left (left more cs : List Char) :
    plainOnto (left ++ more) cs = more.reverse ++ plainOnto left cs := by
  fun_induction plainOnto left cs with
  | case1 left => rw [plainOnto, List.reverse_append]
  | case2 left c rest after hafter _ ih => rw [plainOnto_of_sequence hafter, ih]
  | case3 left c rest hnone ih => rw [plainOnto_cons hnone, ← ih, List.cons_append]

/-- A text with one sequence is plain without it. -/
theorem plain_of_sequence {front sequence rest : String} (hfront : '\x1b' ∉ front.toList)
    (h : afterSequence? (sequence.toList ++ rest.toList) = some rest.toList)
    (hrest : '\x1b' ∉ rest.toList) : plain (front ++ sequence ++ rest) = front ++ rest := by
  have hall : plain (front ++ sequence ++ rest) = plain (front ++ rest) := by
    simp only [plain, String.toList_append, List.append_assoc]
    rw [plainOnto_append hfront, plainOnto_append hfront, plainOnto_of_sequence h]
  rw [hall, plain_of_notMem]
  rw [String.toList_append, List.mem_append]
  exact not_or.2 ⟨hfront, hrest⟩

/-- A line break at the end of a text belongs to no sequence. -/
theorem afterSequence?_append_newLine (cs : List Char) :
    afterSequence? (cs ++ ['\n']) = (afterSequence? cs).map (· ++ ['\n']) := by
  have hstart : ['\x1b', '['] <+: cs ++ ['\n'] ↔ ['\x1b', '['] <+: cs := by
    rw [List.prefix_concat_iff]
    refine or_iff_right fun h => ?_
    exact absurd (congrArg List.getLast? h) (by simp)
  rw [afterSequence?_eq, afterSequence?_eq]
  by_cases h : ['\x1b', '['] <+: cs
  · obtain ⟨rest, rfl⟩ := h
    rw [if_pos (hstart.2 ⟨rest, rfl⟩), if_pos ⟨rest, rfl⟩]
    change (match (rest ++ ['\n']).dropWhile isSequenceParameter with
      | c :: after => if c.isAlpha then some after else none
      | [] => none) = Option.map (· ++ ['\n']) (match rest.dropWhile isSequenceParameter with
      | c :: after => if c.isAlpha then some after else none
      | [] => none)
    rw [List.dropWhile_append]
    rcases rest.dropWhile isSequenceParameter with _ | ⟨c, after⟩
    · rfl
    · cases hletter : c.isAlpha <;> simp [hletter]
  · rw [if_neg (mt hstart.1 h), if_neg h]
    rfl

/-- The break at the end of a text stays, whatever is left of the text. -/
theorem plainOnto_append_newLine (left cs : List Char) :
    plainOnto left (cs ++ ['\n']) = plainOnto left cs ++ ['\n'] := by
  fun_induction plainOnto left cs with
  | case1 left =>
    rw [List.nil_append, plainOnto_cons (by decide), plainOnto, List.reverse_cons]
  | case2 left c rest after hafter _ ih =>
    have hlonger := afterSequence?_append_newLine (c :: rest)
    rw [hafter] at hlonger
    rw [plainOnto_of_sequence hlonger, ih]
  | case3 left c rest hnone ih =>
    have hlonger := afterSequence?_append_newLine (c :: rest)
    rw [hnone, Option.map_none, List.cons_append] at hlonger
    rw [List.cons_append, plainOnto_cons hlonger, ih]

/-- **A message on a line of its own is made plain on its own.** -/
theorem plain_line {front : String} (h : '\x1b' ∉ front.toList) (message : String) :
    plain (front ++ message ++ "\n") = front ++ plain message ++ "\n" := by
  have hall : (front ++ message ++ "\n").toList = front.toList ++ (message.toList ++ ['\n']) := by
    simp
  have hplain : plainOnto [] (front ++ message ++ "\n").toList =
      front.toList ++ (plainOnto [] message.toList ++ ['\n']) := by
    rw [hall, plainOnto_append h, plainOnto_append_newLine, List.append_nil,
      ← List.nil_append front.toList.reverse, plainOnto_append_left, List.reverse_reverse,
      List.append_assoc]
  apply String.toList_inj.1
  rw [plain, hplain]
  simp [plain]

namespace Json

/-- Whether a character may stand in the text of a report: it is printable ASCII, or it breaks the
line. -/
def isReportChar (c : Char) : Bool := c = '\n' || (32 ≤ c.toNat && c.toNat < 127)

/-- Whether all characters of a text may stand in a report can be computed. -/
theorem isReportChar_of_all {cs : List Char} (h : cs.all isReportChar = true) :
    ∀ c ∈ cs, isReportChar c = true :=
  List.all_eq_true.1 h

/-- No character of a report starts a control sequence. -/
theorem ne_escape_of_isReportChar {c : Char} (h : isReportChar c = true) : c ≠ '\x1b' := by
  rintro rfl
  exact absurd h (by decide)

/-- Digits stand in reports. -/
theorem isReportChar_hexDigits (width n : Nat) :
    ∀ c ∈ hexDigits width n, isReportChar c = true := by
  induction width generalizing n with
  | zero => simp [hexDigits]
  | succ width ih =>
    have hdigit : ∀ d < 16, isReportChar (Nat.digitChar d) = true := by decide
    rw [hexDigits, List.forall_mem_append]
    exact ⟨ih _, by simpa using hdigit _ (Nat.mod_lt n (by decide))⟩

/-- What a character is written as in a string stands in reports, be it the character or an
escape. -/
theorem isReportChar_escapedChar (c : Char) : ∀ d ∈ escapedChar c, isReportChar d = true := by
  have hunit (n : Nat) : ∀ d ∈ escapedUnit n, isReportChar d = true :=
    List.forall_mem_append.2 ⟨isReportChar_of_all (by decide), isReportChar_hexDigits 4 n⟩
  unfold escapedChar
  dsimp only
  split_ifs with h₁ h₂ h₃ h₄ h₅ h₆ h₇ hprintable h₉
  · exact isReportChar_of_all (by decide)
  · exact isReportChar_of_all (by decide)
  · exact isReportChar_of_all (by decide)
  · exact isReportChar_of_all (by decide)
  · exact isReportChar_of_all (by decide)
  · exact isReportChar_of_all (by decide)
  · exact isReportChar_of_all (by decide)
  · simp [isReportChar, hprintable]
  · exact hunit _
  · exact List.forall_mem_append.2 ⟨hunit _, hunit _⟩

/-- A string is written with characters of reports, whatever is in it. -/
theorem isReportChar_string (s : String) : ∀ c ∈ string s, isReportChar c = true := by
  rw [string, List.cons_append, List.forall_mem_cons, List.forall_mem_append]
  refine ⟨by decide, fun c hc => ?_, isReportChar_of_all (by decide)⟩
  obtain ⟨d, -, hd⟩ := List.mem_flatMap.1 hc
  exact isReportChar_escapedChar d c hd

/-- A natural number is written with characters of reports. -/
theorem isReportChar_nat (n : Nat) : ∀ c ∈ n.repr.toList, isReportChar c = true := by
  intro c hc
  rw [Nat.toList_repr] at hc
  have hdigit := Nat.isDigit_of_mem_toDigits (by decide) (by decide) hc
  simp only [Char.isDigit, Bool.and_eq_true, decide_eq_true_eq] at hdigit
  obtain ⟨hzero, hnine⟩ := hdigit
  rw [ge_iff_le, UInt32.le_iff_toNat_le] at hzero
  rw [UInt32.le_iff_toNat_le] at hnine
  have hlow : 48 ≤ c.toNat := hzero
  have hhigh : c.toNat ≤ 57 := hnine
  simp only [isReportChar, Bool.or_eq_true, Bool.and_eq_true, decide_eq_true_eq]
  omega

/-- A number is written with characters of reports, signed or not. -/
theorem isReportChar_number (n : Int) : ∀ c ∈ (toString n).toList, isReportChar c = true := by
  rw [Int.toString_eq_repr]
  cases n with
  | ofNat n => exact isReportChar_nat n
  | negSucc n =>
    rw [Int.repr, String.toList_append, List.forall_mem_append]
    exact ⟨isReportChar_of_all (by decide), isReportChar_nat _⟩

/-- A new line and its indentation are characters of reports. -/
theorem isReportChar_newLine (level : Nat) : ∀ c ∈ newLine level, isReportChar c = true := by
  rw [newLine, List.forall_mem_cons]
  refine ⟨by decide, fun c hc => ?_⟩
  rw [List.eq_of_mem_replicate hc]
  decide

mutual

/-- **A JSON text is printable ASCII and line breaks.** -/
theorem isReportChar_pretty (level : Nat) : (v : Json) → ∀ c ∈ pretty level v, isReportChar c = true
  | .text s => by
    rw [pretty]
    exact isReportChar_string s
  | .number n => by
    rw [pretty]
    exact isReportChar_number n
  | .array [] => by
    rw [pretty]
    exact isReportChar_of_all (by decide)
  | .array (v :: rest) => by
    rw [pretty, List.forall_mem_append, List.forall_mem_append, List.forall_mem_cons]
    · exact ⟨⟨⟨by decide, isReportChar_prettyItems _ (v :: rest)⟩, isReportChar_newLine level⟩,
        isReportChar_of_all (by decide)⟩
    · exact List.cons_ne_nil v rest
  | .object [] => by
    rw [pretty]
    exact isReportChar_of_all (by decide)
  | .object (field :: rest) => by
    rw [pretty, List.forall_mem_append, List.forall_mem_append, List.forall_mem_cons]
    · exact ⟨⟨⟨by decide, isReportChar_prettyFields _ (field :: rest)⟩, isReportChar_newLine level⟩,
        isReportChar_of_all (by decide)⟩
    · exact List.cons_ne_nil field rest

/-- The items of an array are written with characters of reports.  The induction is on the items,
along with that for values and fields. -/
theorem isReportChar_prettyItems (level : Nat) :
    (items : List Json) → ∀ c ∈ prettyItems level items, isReportChar c = true
  | [] => nofun
  | [v] => by
    rw [prettyItems, List.forall_mem_append]
    exact ⟨isReportChar_newLine level, isReportChar_pretty level v⟩
  | v :: next :: rest => by
    rw [prettyItems, List.forall_mem_append, List.forall_mem_append, List.forall_mem_cons]
    · exact ⟨⟨isReportChar_newLine level, isReportChar_pretty level v⟩, by decide,
        isReportChar_prettyItems level (next :: rest)⟩
    · exact List.cons_ne_nil next rest

/-- The fields of an object are written with characters of reports. -/
theorem isReportChar_prettyFields (level : Nat) :
    (fields : List (String × Json)) → ∀ c ∈ prettyFields level fields, isReportChar c = true
  | [] => nofun
  | [(name, v)] => by
    rw [prettyFields, List.forall_mem_append, List.forall_mem_append, List.forall_mem_append]
    exact ⟨⟨⟨isReportChar_newLine level, isReportChar_string name⟩,
      isReportChar_of_all (by decide)⟩, isReportChar_pretty level v⟩
  | (name, v) :: next :: rest => by
    rw [prettyFields, List.forall_mem_append, List.forall_mem_append, List.forall_mem_append,
      List.forall_mem_append]
    · exact ⟨⟨⟨⟨isReportChar_newLine level, isReportChar_string name⟩,
        isReportChar_of_all (by decide)⟩, isReportChar_pretty level v⟩, List.forall_mem_cons.2
          ⟨by decide, isReportChar_prettyFields level (next :: rest)⟩⟩
    · exact List.cons_ne_nil next rest

end

/-- **Nothing is taken out of a JSON text.** -/
theorem plain_render (v : Json) : plain v.render = v.render := by
  refine plain_of_notMem fun hescape => ?_
  rw [render, String.toList_ofList] at hescape
  exact ne_escape_of_isReportChar (isReportChar_pretty 0 v _ hescape) rfl

end Json
end Text
end DeclSearch
