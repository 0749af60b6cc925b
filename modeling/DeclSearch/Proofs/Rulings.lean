/-
# Texts ruled into lines

A ruling says how a text is made of lines: the lines that are ended, each with its break, and what
stands behind the last break.  Two breaks never run together, which `CR` and `LF` would do with
nothing between them.

Every text has one ruling (`Ruling.existsUnique_text_eq`).  It is found from the end of the text,
where one symbol in front either makes the first line longer, or ends an empty line, or makes a
`CR LF` of an `LF`.  No other ruling has the same text: a line reaches up to the first symbol that
is part of a break, and a `CR` is the whole break unless an `LF` stands behind it, which only an
empty line with an `LF` could put there.

The lines of a text are those of its ruling (`linesOf_text`), so cutting a text into lines inverts
joining them (`splitLines_inverts_joining`).
-/

import DeclSearch.Proofs.Parts
import DeclSearch.Proofs.TextLines
import Mathlib.Data.List.Chain

namespace DeclSearch
namespace Text

/-- What ends a line. -/
inductive Break where
  | cr
  | lf
  | crlf
  deriving Repr, DecidableEq

/-- The symbols that a break consists of. -/
def Break.symbols {α : Type} (cr lf : α) : Break → List α
  | .cr => [cr]
  | .lf => [lf]
  | .crlf => [cr, lf]

namespace Break

variable {α : Type} {cr lf : α}

/-- A break starts with one of the two symbols. -/
theorem exists_symbols_eq (cr lf : α) (b : Break) :
    ∃ x rest, b.symbols cr lf = x :: rest ∧ (x = cr ∨ x = lf) := by
  cases b with
  | cr => exact ⟨cr, [], rfl, .inl rfl⟩
  | lf => exact ⟨lf, [], rfl, .inr rfl⟩
  | crlf => exact ⟨cr, [lf], rfl, .inl rfl⟩

/-- The first break of a text is known, if an `LF` behind a `CR` always belongs to it. -/
theorem eq_of_symbols_append_eq (hne : cr ≠ lf) {b c : Break} {xs ys : List α}
    (hb : b = .cr → xs.head? ≠ some lf) (hc : c = .cr → ys.head? ≠ some lf)
    (h : b.symbols cr lf ++ xs = c.symbols cr lf ++ ys) : b = c ∧ xs = ys := by
  cases b <;> cases c <;> simp_all [symbols, eq_comm]

end Break

/-- A line and what ends it. -/
structure Row (α : Type) where
  line : List α
  stop : Break
  deriving Repr, DecidableEq

/-- Whether the break of a row and that of the next one stay apart: they would be read as one if
the first is `CR` and the second an `LF` at once. -/
def Row.StaysApart {α : Type} (row next : Row α) : Prop :=
  ¬(row.stop = .cr ∧ next.line = [] ∧ next.stop = .lf)

/-- How a text is made of lines: those that are ended, and the one behind the last break, which is
empty if there is none. -/
@[ext]
structure Ruling {α : Type} (cr lf : α) where
  rows : List (Row α)
  last : List α
  plain : ∀ row ∈ rows, ∀ x ∈ row.line, x ≠ cr ∧ x ≠ lf
  plain_last : ∀ x ∈ last, x ≠ cr ∧ x ≠ lf
  apart : rows.IsChain Row.StaysApart

namespace Ruling

variable {α : Type} {cr lf : α}

/-- The text that is ruled. -/
def text (r : Ruling cr lf) : List α :=
  r.rows.flatMap (fun row => row.line ++ row.stop.symbols cr lf) ++ r.last

/-- The lines of a ruled text. -/
def lines (r : Ruling cr lf) : List (List α) :=
  r.rows.map Row.line ++ if r.last.isEmpty then [] else [r.last]

/-- The ruling of a text without a break. -/
def ofLast (line : List α) (hline : ∀ x ∈ line, x ≠ cr ∧ x ≠ lf) : Ruling cr lf :=
  ⟨[], line, by simp, hline, .nil⟩

/-- A ruling with a row in front. -/
def cons (row : Row α) (r : Ruling cr lf) (hrow : ∀ x ∈ row.line, x ≠ cr ∧ x ≠ lf)
    (hapart : ∀ next ∈ r.rows.head?, row.StaysApart next) : Ruling cr lf :=
  ⟨row :: r.rows, r.last, List.forall_mem_cons.2 ⟨hrow, r.plain⟩, r.plain_last,
    r.apart.cons hapart⟩

/-- **Induction on the rows of a ruling.** -/
@[elab_as_elim]
theorem induction_on_rows {P : Ruling cr lf → Prop} (r : Ruling cr lf)
    (last : ∀ line hline, P (ofLast line hline))
    (row : ∀ row r hrow hapart, P r → P (cons row r hrow hapart)) : P r := by
  obtain ⟨rows, line, hplain, hline, hapart⟩ := r
  induction rows with
  | nil => exact last line hline
  | cons first rows ih =>
    obtain ⟨hfirst, hrest⟩ := List.isChain_cons.1 hapart
    obtain ⟨hrow, hplain⟩ := List.forall_mem_cons.1 hplain
    exact row first ⟨rows, line, hplain, hline, hrest⟩ hrow hfirst (ih hplain hrest)

variable {row : Row α} {r : Ruling cr lf} {line : List α}
  {hline : ∀ x ∈ line, x ≠ cr ∧ x ≠ lf} {hrow : ∀ x ∈ row.line, x ≠ cr ∧ x ≠ lf}
  {hapart : ∀ next ∈ r.rows.head?, row.StaysApart next}

/-- The text of one last line is the line. -/
@[simp]
theorem text_ofLast : (ofLast line hline).text = line := rfl

/-- The text of a row and others is the line of the row, its break and the text of the others. -/
@[simp]
theorem text_cons : (cons row r hrow hapart).text =
    row.line ++ (row.stop.symbols cr lf ++ r.text) := by
  simp [text, cons]

/-- The lines of a row and others are that of the row and those of the others. -/
theorem lines_cons : (cons row r hrow hapart).lines = row.line :: r.lines := rfl

/-- A ruled text starts with an `LF` only if an empty line with this break comes first. -/
theorem exists_of_head?_text (hne : cr ≠ lf) (h : r.text.head? = some lf) :
    ∃ next ∈ r.rows.head?, next.line = [] ∧ next.stop = .lf := by
  cases r using induction_on_rows with
  | last line hline =>
    obtain ⟨rest, rfl⟩ := List.head?_eq_some_iff.1 h
    exact absurd rfl (hline lf List.mem_cons_self).2
  | row row r hrow hapart =>
    refine ⟨row, rfl, ?_⟩
    obtain ⟨_ | ⟨x, line⟩, stop⟩ := row
    · refine ⟨rfl, ?_⟩
      cases stop with
      | lf => rfl
      | cr => exact absurd (by simpa [Break.symbols] using h) hne
      | crlf => exact absurd (by simpa [Break.symbols] using h) hne
    · obtain rfl : x = lf := by simpa using h
      exact absurd rfl (hrow x List.mem_cons_self).2

/-- Behind a row that is ended by `CR` a ruling does not start with an `LF`. -/
theorem head?_text_ne (hne : cr ≠ lf) (hcr : row.stop = .cr)
    (hapart : ∀ next ∈ r.rows.head?, row.StaysApart next) : r.text.head? ≠ some lf := by
  intro h
  obtain ⟨next, hnext, hline, hstop⟩ := exists_of_head?_text hne h
  exact hapart next hnext ⟨hcr, hline, hstop⟩

/-- **Every text has a ruling.** The induction puts one symbol in front of a ruling: a carriage
return in front of a line feed makes one break of the two, any other return or feed ends an empty
line, and every other symbol belongs to the first line. -/
theorem exists_text_eq [DecidableEq α] (hne : cr ≠ lf) (cs : List α) :
    ∃ r : Ruling cr lf, r.text = cs := by
  induction cs with
  | nil => exact ⟨ofLast [] (by simp), rfl⟩
  | cons x cs ih =>
    obtain ⟨r, rfl⟩ := ih
    by_cases hlf : x = lf
    · subst hlf
      exact ⟨cons ⟨[], .lf⟩ r (by simp) (by simp [Row.StaysApart]), text_cons⟩
    by_cases hcr : x = cr
    · subst hcr
      by_cases hapart : ∀ next ∈ r.rows.head?, Row.StaysApart ⟨[], .cr⟩ next
      · exact ⟨cons ⟨[], .cr⟩ r (by simp) hapart, text_cons⟩
      -- The `LF` that comes first becomes the second half of a `CR LF`.
      · cases r using induction_on_rows with
        | last line hline => simp [ofLast] at hapart
        | row row r hrow hrest =>
          obtain ⟨hline, hstop⟩ : row.line = [] ∧ row.stop = .lf := by
            simpa [cons, Row.StaysApart] using hapart
          refine ⟨cons ⟨[], .crlf⟩ r (by simp) (by simp [Row.StaysApart]), text_cons.trans ?_⟩
          simp [Break.symbols, hline, hstop]
    · cases r using induction_on_rows with
      | last line hline =>
        exact ⟨ofLast (x :: line) (List.forall_mem_cons.2 ⟨⟨hcr, hlf⟩, hline⟩), rfl⟩
      | row row r hrow hrest =>
        refine ⟨cons ⟨x :: row.line, row.stop⟩ r (List.forall_mem_cons.2 ⟨⟨hcr, hlf⟩, hrow⟩) hrest,
          text_cons.trans ?_⟩
        simp

/-- **A text has no other ruling.** Its first line reaches up to its first symbol of a break, and
which break that is follows from the symbol behind, as a carriage return is never a row's end in
front of a line feed. -/
theorem text_injective (hne : cr ≠ lf) {r s : Ruling cr lf} (h : r.text = s.text) : r = s := by
  have hbreak {line rest : List α} {b : Break} (hline : ∀ x ∈ line, x ≠ cr ∧ x ≠ lf)
      {other : List α} : line ≠ other ++ (b.symbols cr lf ++ rest) := by
    rintro rfl
    obtain ⟨x, behind, hsymbols, hx⟩ := b.exists_symbols_eq cr lf
    have hplain := hline x (by simp [hsymbols])
    tauto
  induction r using induction_on_rows generalizing s with
  | last line hline =>
    cases s using induction_on_rows with
    | last other hother =>
      obtain rfl : line = other := h
      rfl
    | row row s hrow hapart => exact absurd (h.trans text_cons) (hbreak hline)
  | row row r hrow hapart ih =>
    cases s using induction_on_rows with
    | last other hother => exact absurd (h.symm.trans text_cons) (hbreak hother)
    | row next s hnext hrest =>
      rw [text_cons, text_cons] at h
      obtain ⟨x, behind, hrowStop, hx⟩ := row.stop.exists_symbols_eq cr lf
      obtain ⟨y, after, hnextStop, hy⟩ := next.stop.exists_symbols_eq cr lf
      obtain ⟨hlines, hstops⟩ : row.line = next.line ∧
          row.stop.symbols cr lf ++ r.text = next.stop.symbols cr lf ++ s.text := by
        -- A line reaches up to the first symbol that is part of a break.
        rw [hrowStop, hnextStop] at h ⊢
        exact eq_of_append_cons_eq (p := fun x => x = cr ∨ x = lf)
          (fun x hx => not_or.2 (hrow x hx)) (fun x hx => not_or.2 (hnext x hx)) hx hy h
      obtain ⟨hstop, htext⟩ := Break.eq_of_symbols_append_eq hne
        (fun hcr => head?_text_ne hne hcr hapart) (fun hcr => head?_text_ne hne hcr hrest) hstops
      obtain rfl : row = next := by
        obtain ⟨line, stop⟩ := row
        obtain rfl : line = next.line := hlines
        obtain rfl : stop = next.stop := hstop
        rfl
      obtain rfl := ih htext
      rfl

/-- **Every text has exactly one ruling.** -/
theorem existsUnique_text_eq [DecidableEq α] (hne : cr ≠ lf) (cs : List α) :
    ∃! r : Ruling cr lf, r.text = cs := by
  obtain ⟨r, hr⟩ := exists_text_eq hne cs
  exact ⟨r, hr, fun s hs => text_injective hne (hs.trans hr.symm)⟩

/-- No line holds a break. -/
theorem plain_of_mem_lines {r : Ruling cr lf} {line : List α} (h : line ∈ r.lines) :
    ∀ x ∈ line, x ≠ cr ∧ x ≠ lf := by
  rcases List.mem_append.1 h with hended | hlast
  · obtain ⟨row, hrow, rfl⟩ := List.mem_map.1 hended
    exact r.plain row hrow
  · split at hlast
    · exact nomatch hlast
    · exact List.mem_singleton.1 hlast ▸ r.plain_last

/-- What a text has besides its breaks is in its lines. -/
theorem flatten_lines [DecidableEq α] (r : Ruling cr lf) :
    r.lines.flatten = r.text.filter fun x => x ≠ cr ∧ x ≠ lf := by
  have hkept {line : List α} (hline : ∀ x ∈ line, x ≠ cr ∧ x ≠ lf) :
      line.filter (fun x => x ≠ cr ∧ x ≠ lf) = line :=
    List.filter_eq_self.2 fun x hx => decide_eq_true (hline x hx)
  induction r using induction_on_rows with
  | last line hline =>
    rw [text_ofLast, hkept hline]
    rcases line with _ | ⟨x, line⟩ <;> simp [lines, ofLast]
  | row row r hrow hapart ih =>
    have hstop : (row.stop.symbols cr lf).filter (fun x => x ≠ cr ∧ x ≠ lf) = [] := by
      cases row.stop <;> simp [Break.symbols]
    rw [lines_cons, List.flatten_cons, ih, text_cons, List.filter_append, List.filter_append,
      hkept hrow, hstop, List.nil_append]

end Ruling

/-- Whether a function on texts keeps the breaks: it goes from break to break, makes no break where
there was none, and leaves no line empty that was not. -/
structure KeepsBreaks {α β : Type} (cr lf : α) (cr' lf' : β) (f : List α → List β) : Prop where
  append : ∀ line (b : Break) rest,
    f (line ++ (b.symbols cr lf ++ rest)) = f line ++ (b.symbols cr' lf' ++ f rest)
  plain : ∀ line, (∀ x ∈ line, x ≠ cr ∧ x ≠ lf) → ∀ y ∈ f line, y ≠ cr' ∧ y ≠ lf'
  eq_nil_iff : ∀ line, f line = [] ↔ line = []

namespace Ruling

variable {α β : Type} {cr lf : α} {cr' lf' : β} {f : List α → List β}

/-- A ruling with the same breaks and other lines. -/
def map (h : KeepsBreaks cr lf cr' lf' f) (r : Ruling cr lf) : Ruling cr' lf' where
  rows := r.rows.map fun row => ⟨f row.line, row.stop⟩
  last := f r.last
  plain := List.forall_mem_map.2 fun row hrow => h.plain row.line (r.plain row hrow)
  plain_last := h.plain r.last r.plain_last
  apart := by
    refine List.isChain_map_of_isChain _ (fun row next hapart => ?_) r.apart
    simpa only [Row.StaysApart, h.eq_nil_iff] using hapart

/-- **The rulings of a text and of what is made of it correspond.** -/
theorem text_map (h : KeepsBreaks cr lf cr' lf' f) (r : Ruling cr lf) :
    (r.map h).text = f r.text := by
  induction r using induction_on_rows with
  | last line hline => rfl
  | row row r hrow hapart ih =>
    rw [text_cons, h.append, ← ih]
    simp [text, map, cons]

/-- The lines of a ruling that is carried over are carried over one by one. -/
theorem lines_map (h : KeepsBreaks cr lf cr' lf' f) (r : Ruling cr lf) :
    (r.map h).lines = r.lines.map f := by
  have hempty : (f r.last).isEmpty = r.last.isEmpty := by
    rw [Bool.eq_iff_iff, List.isEmpty_iff, List.isEmpty_iff, h.eq_nil_iff]
  simp only [lines, map, hempty, List.map_append, List.map_map, Function.comp_def]
  split <;> rfl

end Ruling

/-- **The lines of a text are those of its ruling**, each of them without its break, and there is no
line behind the last break. -/
theorem linesOf_text (r : Ruling '\r' '\n') : linesOf r.text = r.lines := by
  induction r using Ruling.induction_on_rows with
  | last line hline =>
    by_cases hempty : line = []
    · subst hempty
      rfl
    · rw [Ruling.text_ofLast, linesOf_plain hline hempty]
      simp [Ruling.lines, Ruling.ofLast, hempty]
  | row row r hrow hapart ih =>
    rw [Ruling.text_cons, Ruling.lines_cons, ← ih]
    rcases row with ⟨line, _ | _ | _⟩
    · exact linesOf_append_cr hrow (Ruling.head?_text_ne (by decide) rfl hapart)
    · exact linesOf_append_lf hrow r.text
    · exact linesOf_append_crlf hrow r.text

/-- A text that is ruled is split into the lines of the ruling. -/
theorem splitLines_text (r : Ruling '\r' '\n') :
    splitLines (String.ofList r.text) = r.lines.map String.ofList := by
  rw [splitLines, String.toList_ofList, linesOf_text]

/-- **Every text is ruled in one way only.** -/
theorem existsUnique_ofList_text_eq (text : String) :
    ∃! r : Ruling '\r' '\n', String.ofList r.text = text := by
  have hruled : ∃! r : Ruling '\r' '\n', r.text = text.toList :=
    Ruling.existsUnique_text_eq (by decide) text.toList
  simpa only [← String.toList_inj, String.toList_ofList] using hruled

/-- **Cutting a text into lines inverts joining them.**  Lines without breaks, each ended by one of
the three breaks such that no two breaks run together, and perhaps one more line that is not empty,
are found again in the text they make.  Every text is made in exactly one such way, so no line of a
text has a break in it and no other character is lost; form feed, vertical tab, next line and line
separator are such characters. -/
theorem splitLines_inverts_joining :
    (∀ r : Ruling '\r' '\n', splitLines (String.ofList r.text) = r.lines.map String.ofList) ∧
      (∀ text : String, ∃! r : Ruling '\r' '\n', String.ofList r.text = text) ∧
      (∀ text : String, ∀ line ∈ splitLines text, ∀ c ∈ line.toList, IsPlain c) ∧
      (∀ text : String, (splitLines text).flatMap String.toList =
        text.toList.filter fun c => c ≠ '\r' ∧ c ≠ '\n') ∧
      ∀ c ∈ ['\x0b', '\x0c', '\u0085', '\u2028'], IsPlain c := by
  refine ⟨splitLines_text, existsUnique_ofList_text_eq, fun text line hline => ?_, fun text => ?_,
    by simp [IsPlain]⟩
  · obtain ⟨chars, hchars, rfl⟩ := List.mem_map.1 hline
    rw [String.toList_ofList]
    exact isPlain_of_mem_linesOf hchars
  · obtain ⟨r, rfl⟩ := (existsUnique_ofList_text_eq text).exists
    rw [splitLines_text, String.toList_ofList, ← r.flatten_lines, List.flatMap_def, List.map_map]
    simp [Function.comp_def]

end Text
end DeclSearch
