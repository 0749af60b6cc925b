/-
# The lines of source code

Source code is read as octets of UTF-8 with a line feed behind every line; a preview cuts the
decoded file at every kind of line break.  The two agree: whatever stands in the octets, line
feeds apart, is on one of the lines of the file (`within_of_source?`).  Ending every line by a
line feed moves nothing to another line (`within_lineFeeds`), by induction on the lines.

So every position in the statements of a file is on one of the file's lines
(`within_of_statements?`).  What has no position still needs a line to stand on, and there are
two files without one (`linesOfBytes_eq_nil_iff`).
-/

import DeclSearch.Proofs.EncodingLines
import DeclSearch.Proofs.ReadStatements
import DeclSearch.Workspace.Source

namespace DeclSearch
namespace Python

open Text (IsPlain linesOf)
open Workspace (linesOfBytes)

variable {n k : Nat}

/-- A line ends by the characters that are read first, and their line feeds. -/
theorem lineFeeds_append {line : List Char} (h : ∀ c ∈ line, IsPlain c) (done rest : List Char) :
    lineFeeds done (line ++ rest) = lineFeeds (line.reverse ++ done) rest := by
  induction line generalizing done with
  | nil => rfl
  | cons c line ih =>
    obtain ⟨⟨hcr, hlf⟩, h⟩ := List.forall_mem_cons.1 h
    rw [List.cons_append, lineFeeds, ih h, List.reverse_cons, List.append_assoc,
      List.singleton_append]
    · exact fun hc _ => hcr hc
    · exact fun _ hc _ => hcr hc
    · exact hcr

/-- Whether what `lineFeeds` makes of a text is on the first `n` lines, as far as the lines
of the text are. -/
def FeedsWithin (n : Nat) (cs : List Char) : Prop :=
  ∀ done, ∃ behind, lineFeeds done cs = done.reverse ++ behind ∧
    ∀ k, 1 ≤ k → k + (linesOf cs).length ≤ n + 1 → Cursor.Within n ⟨⟨k, 0⟩, behind⟩

/-- Plain characters hold no line feed. -/
theorem notMem_of_plain {line : List Char} (h : ∀ c ∈ line, IsPlain c) : '\n' ∉ line :=
  fun hmem => (h _ hmem).2 rfl

/-- A line in front of a text. -/
theorem FeedsWithin.line {cs line rest : List Char} (hline : ∀ c ∈ line, IsPlain c)
    (hrest : FeedsWithin n rest) (hlines : linesOf cs = line :: linesOf rest)
    (h : ∀ done, lineFeeds done cs = lineFeeds ('\n' :: (line.reverse ++ done)) rest) :
    FeedsWithin n cs := by
  intro done
  obtain ⟨behind, hbehind, hwithin⟩ := hrest ('\n' :: (line.reverse ++ done))
  refine ⟨line ++ '\n' :: behind, by rw [h, hbehind]; simp, fun k hk hle => ?_⟩
  rw [hlines, List.length_cons] at hle
  exact ((hwithin (k + 1) (by omega) (by omega)).feed hk).append (by omega) (notMem_of_plain hline)

/-- A text whose last line has no break gets a line feed, and the empty one may. -/
theorem exists_lineFeeds_nil (done : List Char) :
    ∃ feeds, lineFeeds done [] = done.reverse ++ feeds ∧ (feeds = [] ∨ feeds = ['\n']) := by
  unfold lineFeeds
  split
  · exact ⟨[], by simp, .inl rfl⟩
  · exact ⟨['\n'], by simp, .inr rfl⟩

/-- The last line of a text. -/
theorem FeedsWithin.last {line : List Char} (hline : ∀ c ∈ line, IsPlain c) :
    FeedsWithin n line := by
  intro done
  obtain ⟨feeds, hfeeds, hcases⟩ := exists_lineFeeds_nil (line.reverse ++ done)
  have happend := lineFeeds_append hline done []
  rw [List.append_nil] at happend
  refine ⟨line ++ feeds, by rw [happend, hfeeds]; simp, fun k hk hle => ?_⟩
  have hwithin : Cursor.Within n ⟨⟨k, 0⟩, feeds⟩ := by
    obtain rfl | rfl := hcases
    · exact Cursor.within_nil hk
    · exact (Cursor.within_nil (Nat.le_add_left 1 k)).feed hk
  by_cases hne : line = []
  · exact hne ▸ hwithin
  · rw [Text.linesOf_plain hline hne, List.length_singleton] at hle
    exact hwithin.append (by omega) (notMem_of_plain hline)

/-- **The line feeds of a text** lead over no more lines than it has. -/
theorem feedsWithin (cs : List Char) : FeedsWithin n cs := by
  induction cs using Text.induction_on_lines with
  | nil => exact .last (by simp)
  | last line hline hne => exact .last hline
  | lf line rest hline ih =>
    refine ih.line hline (Text.linesOf_append_lf hline rest) fun done => ?_
    rw [lineFeeds_append hline, lineFeeds] <;> simp
  | crlf line rest hline ih =>
    rcases rest with _ | ⟨c, rest⟩
    · refine fun done => ⟨line ++ ['\n', '\n'], by rw [lineFeeds_append hline]; simp [lineFeeds],
        fun k hk hle => ?_⟩
      rw [Text.linesOf_append_crlf hline, List.length_cons] at hle
      exact (((Cursor.within_nil (by omega)).feed (by omega)).feed hk).append (by omega)
        (notMem_of_plain hline)
    · refine ih.line hline (Text.linesOf_append_crlf hline _) fun done => ?_
      rw [lineFeeds_append hline, lineFeeds]
      simp
  | cr line rest hline hrest ih =>
    refine ih.line hline (Text.linesOf_append_cr hline hrest) fun done => ?_
    rw [lineFeeds_append hline, lineFeeds]
    · rintro rfl
      exact hrest rfl
    · rintro behind rfl
      exact hrest rfl

/-- **Line feeds.**  In source code every line ends by a line feed, and what stands there stands
on one of the lines that its line breaks make. -/
theorem within_lineFeeds (cs : List Char) :
    Cursor.Within (linesOf cs).length ⟨⟨1, 0⟩, lineFeeds [] cs⟩ := by
  obtain ⟨behind, hbehind, hwithin⟩ := feedsWithin (n := (linesOf cs).length) cs []
  rw [hbehind]
  exact hwithin 1 (Nat.le_refl 1) (by omega)

/-- **The lines of source code are the lines of its file.** The parser counts line feeds in what the
bytes encode, and a preview counts the lines of the bytes as they are decoded for showing; neither a
byte-order mark nor an encoding that is declared makes a difference to that. -/
theorem within_of_source? {content : Text.Bytes} {octets : List Char}
    (h : Encoding.source? content = some octets) :
    Cursor.Within (linesOfBytes content).length ⟨⟨1, 0⟩, octets⟩ := by
  have hlines : (linesOfBytes content).length =
      (linesOf (Text.octetsOf (Text.Utf8.dropMark content))).length := by
    rw [linesOfBytes, List.length_map, Text.linesOf_decodeLossy, List.length_map]
  have hfeeds := within_lineFeeds (Text.octetsOf (Text.Utf8.dropMark content))
  rw [← hlines] at hfeeds
  unfold Encoding.source? at h
  split at h
  · exact nomatch h
  · dsimp only at h
    split at h
    · exact Option.some.inj h ▸ hfeeds
    · exact Option.some.inj h ▸ hfeeds
    · split at h
      · exact nomatch h
      · exact within_recode? h hfeeds

/-- **The positions in a source file are on its lines.** -/
theorem within_of_statements? {content : Text.Bytes} {body : List Stmt}
    (h : statements? content = some body) :
    ∀ s ∈ body, s.Within (linesOfBytes content).length := by
  obtain ⟨octets, hoctets, hbody⟩ := exists_source_of_statements? h
  exact within_of_parseModule hbody (within_of_source? hoctets)

/-- A source file that is parsed is no binary. -/
theorem contains_zero_of_statements? {content : Text.Bytes} {body : List Stmt}
    (h : statements? content = some body) : content.contains 0 = false := by
  obtain ⟨octets, hoctets, -⟩ := exists_source_of_statements? h
  unfold Encoding.source? at hoctets
  split at hoctets
  · exact nomatch hoctets
  · next hzero => simpa using hzero

/-- **Files without lines.**  A file has no line if it is empty, or if it holds a byte-order
mark and nothing else. -/
theorem linesOfBytes_eq_nil_iff {content : Text.Bytes} :
    linesOfBytes content = [] ↔ content = [] ∨ content = Text.Utf8.mark := by
  rw [linesOfBytes, List.map_eq_nil_iff, Text.linesOf_decodeLossy, List.map_eq_nil_iff,
    Text.linesOf_eq_nil_iff, Text.octetsOf, List.map_eq_nil_iff]
  unfold Text.Utf8.dropMark
  split
  · simp [Text.Utf8.mark]
  · next hmark =>
    refine ⟨.inl, ?_⟩
    rintro (rfl | rfl)
    · rfl
    · exact absurd rfl (hmark [])

end Python
end DeclSearch
