/-
# The lines of a text

A text is empty, or one line without a break, or a line, a break and a text again; a `CR` is
the whole break only where no `LF` follows it.  `induction_on_lines` is induction on texts cut
in this way, and the lines of a text are found by it (`linesOf_append_lf` and its siblings).
-/

import DeclSearch.Text.Lines
import Mathlib.Data.List.Basic

namespace DeclSearch
namespace Text

/-- Whether a character is part of no line break. -/
def IsPlain (c : Char) : Prop := c ≠ '\r' ∧ c ≠ '\n'

variable {line rest : List Char}

/-- The lines that were found first stay in front. -/
theorem linesOnto_append_lines (more lines : List (List Char)) (line cs : List Char) :
    linesOnto (lines ++ more) line cs = more.reverse ++ linesOnto lines line cs := by
  fun_induction linesOnto lines line cs with
  | case1 lines line =>
    rw [linesOnto]
    split <;> simp
  | case2 lines line rest ih => rw [linesOnto, ← ih, List.cons_append]
  | case3 lines line rest hrest ih =>
    rw [linesOnto, ← ih, List.cons_append]
    exact hrest
  | case4 lines line rest ih => rw [linesOnto, ← ih, List.cons_append]
  | case5 lines line c rest hcrlf hcr hlf ih =>
    rw [linesOnto, ih]
    · exact hcrlf
    · exact hcr
    · exact hlf

/-- The lines that are already cut stay in front. -/
theorem linesOnto_eq (lines : List (List Char)) (line cs : List Char) :
    linesOnto lines line cs = lines.reverse ++ linesOnto [] line cs :=
  linesOnto_append_lines lines [] line cs

/-- Plain characters make the line longer. -/
theorem linesOnto_append (h : ∀ c ∈ line, IsPlain c) (lines : List (List Char))
    (before rest : List Char) :
    linesOnto lines before (line ++ rest) = linesOnto lines (line.reverse ++ before) rest := by
  induction line generalizing before with
  | nil => rfl
  | cons c line ih =>
    obtain ⟨⟨hcr, hlf⟩, h⟩ := List.forall_mem_cons.1 h
    rw [List.cons_append, linesOnto, ih h, List.reverse_cons, List.append_assoc,
      List.singleton_append]
    · exact fun _ hc _ => hcr hc
    · exact hcr
    · exact hlf

/-- Nothing has no lines. -/
theorem linesOf_nil : linesOf [] = [] := rfl

/-- Some characters without a break are one line. -/
theorem linesOf_plain (h : ∀ c ∈ line, IsPlain c) (hne : line ≠ []) : linesOf line = [line] := by
  have hlast := linesOnto_append h [] [] []
  rw [List.append_nil, List.append_nil] at hlast
  rw [linesOf, hlast, linesOnto]
  simp [hne]

/-- A line feed ends a line. -/
theorem linesOf_append_lf (h : ∀ c ∈ line, IsPlain c) (rest : List Char) :
    linesOf (line ++ '\n' :: rest) = line :: linesOf rest := by
  rw [linesOf, linesOnto_append h, linesOnto, linesOnto_eq]
  simp [linesOf]

/-- A carriage return and a line feed end a line together. -/
theorem linesOf_append_crlf (h : ∀ c ∈ line, IsPlain c) (rest : List Char) :
    linesOf (line ++ '\r' :: '\n' :: rest) = line :: linesOf rest := by
  rw [linesOf, linesOnto_append h, linesOnto, linesOnto_eq]
  simp [linesOf]

/-- A carriage return ends a line by itself if no line feed follows it. -/
theorem linesOf_append_cr (h : ∀ c ∈ line, IsPlain c) (hrest : rest.head? ≠ some '\n') :
    linesOf (line ++ '\r' :: rest) = line :: linesOf rest := by
  rw [linesOf, linesOnto_append h, linesOnto, linesOnto_eq]
  · simp [linesOf]
  · rintro behind rfl
    exact hrest rfl

/-- **Induction on the lines of a text.**  The text is read as its lines are found, behind
the part of a line that was read before. -/
@[elab_as_elim]
theorem induction_on_lines {P : List Char → Prop} (cs : List Char) (nil : P [])
    (last : ∀ line, (∀ c ∈ line, IsPlain c) → line ≠ [] → P line)
    (lf : ∀ line rest, (∀ c ∈ line, IsPlain c) → P rest → P (line ++ '\n' :: rest))
    (crlf : ∀ line rest, (∀ c ∈ line, IsPlain c) → P rest → P (line ++ '\r' :: '\n' :: rest))
    (cr : ∀ line rest, (∀ c ∈ line, IsPlain c) → rest.head? ≠ some '\n' → P rest →
      P (line ++ '\r' :: rest)) : P cs := by
  have behind (lines : List (List Char)) (before cs : List Char) :
      ∀ line, (∀ c ∈ line, IsPlain c) → P (line ++ cs) := by
    fun_induction linesOnto lines before cs with
    | case1 =>
      intro line hline
      rw [List.append_nil]
      by_cases hne : line = []
      · exact hne ▸ nil
      · exact last line hline hne
    | case2 _ _ rest ih => exact fun line hline => crlf line rest hline (ih [] (by simp))
    | case3 _ _ rest hrest ih =>
      intro line hline
      refine cr line rest hline (fun hhead => ?_) (ih [] (by simp))
      obtain ⟨behind, rfl⟩ := List.head?_eq_some_iff.1 hhead
      exact hrest behind rfl
    | case4 _ _ rest ih => exact fun line hline => lf line rest hline (ih [] (by simp))
    | case5 _ _ c rest _ hcr hlf ih =>
      intro line hline
      rw [List.append_cons]
      exact ih _ (List.forall_mem_append.2 ⟨hline, by simpa using ⟨hcr, hlf⟩⟩)
  exact behind [] [] cs [] (by simp)

/-- Only the empty text has no lines. -/
theorem linesOf_eq_nil_iff {cs : List Char} : linesOf cs = [] ↔ cs = [] := by
  induction cs using induction_on_lines with
  | nil => simp [linesOf_nil]
  | last line hline hne => simp [linesOf_plain hline hne, hne]
  | lf line rest hline _ => simp [linesOf_append_lf hline]
  | crlf line rest hline _ => simp [linesOf_append_crlf hline]
  | cr line rest hline hrest _ => simp [linesOf_append_cr hline hrest]

/-- No line has a break in it. -/
theorem isPlain_of_mem_linesOf {cs line : List Char} (h : line ∈ linesOf cs) :
    ∀ c ∈ line, IsPlain c := by
  induction cs using induction_on_lines with
  | nil => exact absurd h List.not_mem_nil
  | last first hfirst hne =>
    rw [linesOf_plain hfirst hne] at h
    exact List.mem_singleton.1 h ▸ hfirst
  | lf first rest hfirst ih =>
    rw [linesOf_append_lf hfirst] at h
    exact (List.mem_cons.1 h).elim (fun he => he ▸ hfirst) ih
  | crlf first rest hfirst ih =>
    rw [linesOf_append_crlf hfirst] at h
    exact (List.mem_cons.1 h).elim (fun he => he ▸ hfirst) ih
  | cr first rest hfirst hrest ih =>
    rw [linesOf_append_cr hfirst hrest] at h
    exact (List.mem_cons.1 h).elim (fun he => he ▸ hfirst) ih

end Text
end DeclSearch
