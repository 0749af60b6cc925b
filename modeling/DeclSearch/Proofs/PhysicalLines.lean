/-
# Physical lines

The physical lines of a file are found in its bytes: behind a byte-order mark they are cut at
`CR LF`, `CR` and `LF`, whatever the bytes in between mean.  The lines that are shown are found in
the text that the bytes are read as.  Since decoding keeps the breaks (`keepsBreaks_decodeLossy`),
the ruling of the bytes becomes the ruling of the text, so that the line of a number is the
physical line of that number, decoded on its own (`readLines_are_physical_lines`).
-/

import DeclSearch.Proofs.Decoding
import DeclSearch.Proofs.Previews

namespace DeclSearch
namespace Workspace

open Text

/-- How a physical line is shown. -/
def shownLine (line : Bytes) : String := String.ofList (Utf8.decodeLossy line)

/-- **The lines of a file's content are its physical lines**, each of them decoded. -/
theorem linesOfBytes_eq {content : Bytes} {r : Ruling (13 : UInt8) 10}
    (h : r.text = Utf8.dropMark content) : linesOfBytes content = r.lines.map shownLine := by
  rw [linesOfBytes, ← h, ← Ruling.text_map keepsBreaks_decodeLossy, linesOf_text,
    Ruling.lines_map, List.map_map]
  rfl

/-- **The lines of a file are its physical lines.**  The bytes behind a byte-order mark are cut into
lines and breaks in exactly one way.  However broken they are, the file is read as these lines, each
decoded on its own; decoding leaves every break where it is and makes none in a line, and the
preview of a line marks the physical line of the same number. -/
theorem readLines_are_physical_lines (t : Tree) (p : Path) (content : Bytes)
    (hread : t.read p = .ok content) (hnul : 0 ∉ content) :
    (∃! r : Ruling (13 : UInt8) 10, r.text = Utf8.dropMark content) ∧
      ∀ r : Ruling (13 : UInt8) 10, r.text = Utf8.dropMark content →
        t.readLines p = .ok (r.lines.map shownLine) ∧
        Utf8.decodeLossy (Utf8.dropMark content) =
          r.rows.flatMap (fun row =>
            Utf8.decodeLossy row.line ++ row.stop.symbols '\r' '\n') ++ Utf8.decodeLossy r.last ∧
        (∀ line ∈ r.lines, ∀ c ∈ (shownLine line).toList, IsPlain c) ∧
        ∀ k (hk : k < r.lines.length),
          (cut '\n' (Preview.text (r.lines.map shownLine) k)).filter Preview.isMarked =
            [">>> " ++ shownLine r.lines[k]] := by
  refine ⟨Ruling.existsUnique_text_eq (by decide) _, fun r hr => ?_⟩
  have hlines : t.readLines p = .ok (r.lines.map shownLine) := by
    rw [Tree.readLines, hread]
    simp only [List.contains_eq_mem, hnul, decide_false, Bool.false_eq_true, if_false,
      linesOfBytes_eq hr]
  have hplain : ∀ line ∈ r.lines, ∀ c ∈ (shownLine line).toList, IsPlain c := by
    intro line hline
    rw [shownLine, String.toList_ofList]
    exact keepsBreaks_decodeLossy.plain line (Ruling.plain_of_mem_lines hline)
  refine ⟨hlines, ?_, hplain, fun k hk => ?_⟩
  · rw [← hr, ← Ruling.text_map keepsBreaks_decodeLossy, Ruling.text, Ruling.map, List.flatMap_map]
  · have hlength : k < (r.lines.map shownLine).length := by rwa [List.length_map]
    rw [Preview.cut_text hlength (Tree.notMem_of_readLines hlines),
      Preview.filter_isMarked_entries hlength, List.getElem_map]

/-- Behind a byte-order mark a letter and a stray byte, a scalar value that is cut short by a `CR`,
and another one that is cut short by the end. -/
def brokenContent : Bytes := [0xEF, 0xBB, 0xBF, 0x61, 0xFF, 0x0D, 0x0A, 0xE2, 0x82, 0x0D, 0xC3]

/-- A folder with nothing but a file of broken lines. -/
def brokenFile : Tree where
  top := [("a.py", .file brokenContent)]
  regular := by decide +kernel

/-- The ruling of `brokenContent`. -/
def brokenRuling : Ruling (13 : UInt8) 10 where
  rows := [⟨[0x61, 0xFF], .crlf⟩, ⟨[0xE2, 0x82], .cr⟩]
  last := [0xC3]
  plain := by decide +kernel
  plain_last := by decide +kernel
  apart := by simp [Row.StaysApart]

/-- The hypotheses of `readLines_are_physical_lines` are satisfiable: three broken lines are read
as three lines. -/
theorem readLines_are_physical_lines_broken :
    brokenFile.read ⟨.relative, ["a.py"]⟩ = .ok brokenContent ∧ 0 ∉ brokenContent ∧
      brokenFile.readLines ⟨.relative, ["a.py"]⟩ = .ok ["a\uFFFD", "\uFFFD", "\uFFFD"] := by
  have hread : brokenFile.read ⟨.relative, ["a.py"]⟩ = .ok brokenContent := by decide +kernel
  have hnul : 0 ∉ brokenContent := by decide
  have hshown : brokenRuling.lines.map shownLine = ["a\uFFFD", "\uFFFD", "\uFFFD"] := by
    decide +kernel
  obtain ⟨-, hruled⟩ := readLines_are_physical_lines _ _ _ hread hnul
  obtain ⟨hlines, -⟩ := hruled brokenRuling rfl
  exact ⟨hread, hnul, hshown ▸ hlines⟩

end Workspace
end DeclSearch
