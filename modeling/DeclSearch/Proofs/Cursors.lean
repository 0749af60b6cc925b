/-
# Places in a text

A cursor is a place in a text with what is left of the text there.  `Cursor.Reads` says which text
is passed on the way from one cursor to another, and `Cursor.Passes` that some is passed and does
not end in a line feed.  The way leads to a further place, by line and then by column
(`Position.place_lt_after`), and the line is further by the line feeds on the way
(`Position.line_after`).

`Cursor.Within n` says that whatever is left of a text, apart from line feeds, is on the first `n`
lines.  So text that does not end in a line feed stops on one of them (`Cursor.Passes.line_le`).
-/

import DeclSearch.Python.Lexer
import Mathlib.Data.List.Basic
import Mathlib.Data.Prod.Lex

namespace DeclSearch
namespace Python

/-- A position by line and then by column. -/
def Position.place (p : Position) : ℕ ×ₗ ℕ := toLex (p.line, p.column)

/-- Positions are ordered by their lines, and on one line by their columns. -/
theorem Position.place_le_iff {p q : Position} :
    p.place ≤ q.place ↔ p.line < q.line ∨ p.line = q.line ∧ p.column ≤ q.column :=
  Prod.Lex.toLex_le_toLex

/-- A position is in front of another one by its line, or on one line by its column. -/
theorem Position.place_lt_iff {p q : Position} :
    p.place < q.place ↔ p.line < q.line ∨ p.line = q.line ∧ p.column < q.column :=
  Prod.Lex.toLex_lt_toLex

/-- A position that is not behind another one is not on a later line. -/
theorem Position.line_le_of_place_le {p q : Position} (h : p.place ≤ q.place) :
    p.line ≤ q.line := by
  rcases place_le_iff.1 h with h | ⟨h, -⟩
  · exact h.le
  · exact h.le

/-- Behind one text and another one is where the second leads from behind the first. -/
theorem Position.after_append (p : Position) (front back : List Char) :
    p.after (front ++ back) = (p.after front).after back :=
  List.foldl_append

/-- Behind some text a place is further. -/
theorem Position.place_lt_after (p : Position) {taken : List Char} (h : taken ≠ []) :
    p.place < (p.after taken).place := by
  have hone (p : Position) (c : Char) : p.place < (p.after [c]).place := by
    rw [place_lt_iff, after, List.foldl_cons, List.foldl_nil]
    split
    · exact .inl (Nat.lt_succ_self _)
    · exact .inr ⟨rfl, Nat.lt_succ_self _⟩
  induction taken generalizing p with
  | nil => exact absurd rfl h
  | cons c rest ih =>
    change p.place < ((p.after [c]).after rest).place
    rcases rest with _ | ⟨d, rest⟩
    · exact hone p c
    · exact (hone p c).trans (ih _ (List.cons_ne_nil d rest))

/-- Reading never leads back. -/
theorem Position.place_le_after (p : Position) (taken : List Char) :
    p.place ≤ (p.after taken).place := by
  rcases taken with _ | ⟨c, rest⟩
  · exact le_refl _
  · exact (p.place_lt_after (List.cons_ne_nil c rest)).le

/-- Text without a line feed stays on its line. -/
theorem Position.after_of_notMem (p : Position) {taken : List Char} (h : '\n' ∉ taken) :
    p.after taken = ⟨p.line, p.column + taken.length⟩ := by
  induction taken generalizing p with
  | nil => rfl
  | cons c rest ih =>
    obtain ⟨hc, hrest⟩ := not_or.1 (List.mem_cons.not.1 h)
    change (p.after [c]).after rest = _
    rw [ih _ hrest, after, List.foldl_cons, List.foldl_nil, if_neg (Ne.symm hc), List.length_cons]
    exact congrArg (Position.mk p.line) (by dsimp only; omega)

/-- Behind a piece of text the line is further by the line feeds in it. -/
theorem Position.line_after (p : Position) (taken : List Char) :
    (p.after taken).line = p.line + taken.count '\n' := by
  induction taken generalizing p with
  | nil => rfl
  | cons c rest ih =>
    rw [after, List.foldl_cons, ← after, ih, List.count_cons]
    by_cases hc : c = '\n'
    · simp [hc]
      omega
    · simp [hc]

/-- Going on from one place of a text to another, over the text between them. -/
structure Cursor.Reads (c : Cursor) (taken : List Char) (stop : Cursor) : Prop where
  rest : c.rest = taken ++ stop.rest
  place : stop.place = c.place.after taken

/-- Nothing is read from a cursor to itself. -/
theorem Cursor.Reads.refl (c : Cursor) : c.Reads [] c := ⟨rfl, rfl⟩

/-- What is read up to a cursor and what is read from there is read in one. -/
theorem Cursor.Reads.trans {a b c : Cursor} {front back : List Char} (h : a.Reads front b)
    (h' : b.Reads back c) : a.Reads (front ++ back) c :=
  ⟨by rw [h.rest, h'.rest, List.append_assoc], by rw [h'.place, h.place, Position.after_append]⟩

/-- Going on behind one more character. -/
theorem Cursor.Reads.cons {place behind : Position} {ch : Char} {rest taken : List Char}
    {stop : Cursor} (h : Cursor.Reads ⟨behind, rest⟩ taken stop)
    (hplace : behind = place.after [ch]) :
    Cursor.Reads ⟨place, ch :: rest⟩ (ch :: taken) stop :=
  ⟨congrArg (ch :: ·) h.rest, by rw [h.place, hplace]; rfl⟩

/-- A cursor that was read to is not in front of the one it was read from. -/
theorem Cursor.Reads.place_le {c stop : Cursor} {taken : List Char} (h : c.Reads taken stop) :
    c.place.place ≤ stop.place.place :=
  h.place ▸ c.place.place_le_after taken

/-- Skipping octets, none of which is a line feed. -/
theorem Cursor.reads_skip (c : Cursor) {taken rest : List Char} (hrest : c.rest = taken ++ rest)
    (h : '\n' ∉ taken) : c.Reads taken (c.skip taken.length) := by
  refine ⟨?_, (c.place.after_of_notMem h).symm⟩
  rw [Cursor.skip, hrest, List.drop_left]

/-- Going on behind a line feed. -/
theorem Cursor.reads_feed (c : Cursor) (front : List Char) {rest : List Char}
    (hfront : '\n' ∉ front) (hrest : c.rest = front ++ '\n' :: rest) :
    c.Reads (front ++ ['\n']) ⟨⟨c.place.line + 1, 0⟩, rest⟩ := by
  refine ⟨by simpa using hrest, ?_⟩
  rw [Position.after_append, Position.after_of_notMem _ hfront]
  rfl

/-- Going on behind some octets as they are. -/
theorem Cursor.reads_after (c : Cursor) (k : Nat) :
    c.Reads (c.rest.take k) ⟨c.place.after (c.rest.take k), c.rest.drop k⟩ :=
  ⟨(List.take_append_drop k c.rest).symm, rfl⟩

/-- Going on over some text that does not end in a line feed. -/
def Cursor.Passes (c stop : Cursor) : Prop :=
  ∃ front last, last ≠ '\n' ∧ c.Reads (front ++ [last]) stop

/-- Some text without a break leads on along its line. -/
theorem Cursor.Passes.of_notMem {c stop : Cursor} {taken : List Char} (h : c.Reads taken stop)
    (hne : taken ≠ []) (hfeed : '\n' ∉ taken) : c.Passes stop := by
  obtain hnil | ⟨front, last, rfl⟩ := List.eq_nil_or_concat taken
  · exact absurd hnil hne
  · rw [List.concat_eq_append] at h hfeed
    exact ⟨front, last, fun hlast => hfeed (by simp [hlast]), h⟩

/-- A cursor that was passed to is behind the one it was passed from. -/
theorem Cursor.Passes.place_lt {c stop : Cursor} (h : c.Passes stop) :
    c.place.place < stop.place.place := by
  obtain ⟨front, last, -, hread⟩ := h
  rw [hread.place]
  exact c.place.place_lt_after (by simp)

/-! ### The first lines of a text -/

/-- Whether a position is on one of the first `n` lines. -/
def Position.Within (n : Nat) (p : Position) : Prop := 1 ≤ p.line ∧ p.line ≤ n

/-- Whether the text at a place ends on one of the first `n` lines, line feeds included. -/
structure Cursor.EndsBy (n : Nat) (c : Cursor) : Prop where
  one_le : 1 ≤ c.place.line
  le : c.place.line + c.rest.count '\n' ≤ n

/-- Whether the text at a place, line feeds apart, is on the first `n` lines. -/
structure Cursor.Within (n : Nat) (c : Cursor) : Prop where
  one_le : 1 ≤ c.place.line
  le : ∀ before ch behind, c.rest = before ++ ch :: behind → ch ≠ '\n' →
    c.place.line + before.count '\n' ≤ n

variable {n : Nat}

/-- **Going on in a text.**  Behind a piece of it, no more lines further than there are line
feeds in the piece, the rest is still on the first `n` lines. -/
theorem Cursor.Within.pass {c : Cursor} (h : c.Within n) (taken : List Char) {rest : List Char}
    {place : Position} (hrest : c.rest = taken ++ rest) (hone : 1 ≤ place.line)
    (hline : place.line ≤ c.place.line + taken.count '\n') : Cursor.Within n ⟨place, rest⟩ := by
  refine ⟨hone, fun before ch behind hsplit hch => ?_⟩
  dsimp only at hsplit hline ⊢
  have hle := h.le (taken ++ before) ch behind (by rw [hrest, hsplit, List.append_assoc]) hch
  rw [List.count_append] at hle
  omega

/-- Where something else than a line feed stands, the line is one of the first `n`. -/
theorem Cursor.Within.place {c : Cursor} (h : c.Within n) {ch : Char} {rest : List Char}
    (hrest : c.rest = ch :: rest) (hch : ch ≠ '\n') : c.place.Within n :=
  ⟨h.one_le, h.le [] ch rest hrest hch⟩

/-- Behind a line feed the next line starts. -/
theorem Cursor.Within.newline {c : Cursor} (h : c.Within n) (before : List Char)
    {rest : List Char} (hrest : c.rest = before ++ '\n' :: rest) :
    Cursor.Within n ⟨⟨c.place.line + 1, 0⟩, rest⟩ :=
  h.pass (before ++ ['\n']) (by simpa using hrest) (Nat.le_add_left _ _) (by
    dsimp only
    rw [List.count_append, List.count_singleton_self]
    omega)

/-- A way that does not end in a line feed stops on one of the first `n` lines. -/
theorem Cursor.Passes.line_le {c stop : Cursor} (h : c.Passes stop) (hc : c.Within n) :
    stop.place.line ≤ n := by
  obtain ⟨front, last, hlast, hread⟩ := h
  have hsplit : c.rest = front ++ last :: stop.rest := by simpa using hread.rest
  rw [hread.place, Position.line_after, List.count_append, List.count_cons_of_ne hlast,
    List.count_nil]
  exact hc.le front last stop.rest hsplit hlast

end Python
end DeclSearch
