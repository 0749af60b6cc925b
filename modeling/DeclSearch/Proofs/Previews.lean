/-
# What a preview shows

A preview is one text, and it can be read back: no line of a file has a break in it, so cutting
the text at its breaks gives the entries it was joined from (`Preview.cut_text`).  These are the
lines of the file that are at most two away from the target, each with its mark in front
(`Preview.window_eq_entries`), and only the target has the mark of a target
(`Preview.filter_isMarked_entries`).  Nothing more and nothing less is shown for any index, and
outside of the file there is no preview (`Preview.extract_is_exact`).
-/

import DeclSearch.Preview
import DeclSearch.Proofs.Pieces
import DeclSearch.Proofs.TextLines
import DeclSearch.Workspace.Source
import Mathlib.Data.List.Basic

namespace DeclSearch

/-- The numbered items whose numbers lie in an interval are those of a part of the list. -/
theorem filter_zipIdx {α : Type} (l : List α) (first a b : Nat) :
    (l.zipIdx first).filter (fun entry => a ≤ entry.2 ∧ entry.2 < b) =
      ((l.drop (a - first)).take (b - max a first)).zipIdx (max a first) := by
  induction l generalizing first with
  | nil => simp
  | cons x l ih =>
    rw [List.zipIdx_cons, List.filter_cons, ih]
    rcases Nat.lt_or_ge first a with hlow | hlow
    · rw [if_neg (by simp; omega), show a - first = (a - (first + 1)) + 1 by omega,
        List.drop_succ_cons, show max a (first + 1) = max a first by omega]
    · rw [show a - first = 0 by omega, show a - (first + 1) = 0 by omega, List.drop_zero,
        List.drop_zero, show max a first = first by omega,
        show max a (first + 1) = first + 1 by omega]
      rcases Nat.lt_or_ge first b with hhigh | hhigh
      · rw [if_pos (by simp; omega), show b - first = (b - (first + 1)) + 1 by omega,
          List.take_succ_cons, List.zipIdx_cons]
      · rw [if_neg (by simp; omega), show b - first = 0 by omega,
          show b - (first + 1) = 0 by omega]
        simp

namespace Preview

/-- The lines of a file that are at most two away from a line, each with a mark in front that tells
whether it is that line. -/
def entries (lines : List String) (number : Int) : List String :=
  ((lines.zipIdx 1).filter fun entry => (entry.2 - number).natAbs ≤ 2).map fun entry =>
    (if entry.2 = number then ">>> " else "    ") ++ entry.1

/-- Whether an entry has the mark of the target. -/
def isMarked (entry : String) : Bool := ">>> ".toList.isPrefixOf entry.toList

/-- **A window shows the lines around its target.** -/
theorem window_eq_entries (lines : List String) (target : Nat) :
    window lines target = entries lines (target + 1) := by
  have hnear : (fun entry : String × Nat => decide (((entry.2 : Int) - (target + 1)).natAbs ≤ 2)) =
      fun entry => decide (target - 1 ≤ entry.2 ∧ entry.2 < target + 4) := by
    funext entry
    rw [decide_eq_decide]
    omega
  have hfirst : max (target - 1) 1 = target - 2 + 1 := by omega
  have hcount : target + 4 - (target - 2 + 1) = target + 3 - (target - 2) := by omega
  rw [entries, hnear, filter_zipIdx, hfirst, hcount, Nat.sub_sub, List.zipIdx_eq_map_add,
    List.map_map, window, List.mapIdx_eq_zipIdx_map]
  refine List.map_congr_left fun entry _ => ?_
  have hsame : target - 2 + entry.2 = target ↔
      ((target - 2 + 1 + entry.2 : Nat) : Int) = target + 1 := by omega
  simp only [radius, targetMark, plainMark, Function.comp_apply, hsame]

/-- The window around a line that is there holds that line at least. -/
theorem window_ne_nil {lines : List String} {target : Nat} (h : target < lines.length) :
    window lines target ≠ [] := by
  rw [← List.length_pos_iff]
  simp only [window, radius, List.length_mapIdx, List.length_take, List.length_drop]
  omega

/-- The lines of a file that are at most two away from an index, with their own indices. -/
def nearby (lines : List String) (index : Int) : List (String × Nat) :=
  lines.zipIdx.filter fun entry => index - 2 ≤ entry.2 ∧ entry.2 ≤ index + 2

/-- How the window around an index shows a line. -/
def shown (index : Int) (entry : String × Nat) : String :=
  (if entry.2 = index then ">>> " else "    ") ++ entry.1

/-- Only the line that is asked for is marked. -/
theorem isMarked_shown (index : Int) (entry : String × Nat) :
    isMarked (shown index entry) = decide ((entry.2 : Int) = index) := by
  by_cases he : (entry.2 : Int) = index
  · simp [isMarked, shown, he]
  · simp only [isMarked, shown, he, if_false, String.toList_append]
    rfl

/-- Both marks have four characters. -/
theorem drop_shown (index : Int) (entry : String × Nat) :
    String.ofList ((shown index entry).toList.drop 4) = entry.1 := by
  have hmark (mark : String) (h : mark.toList.length = 4) :
      String.ofList ((mark ++ entry.1).toList.drop 4) = entry.1 := by
    rw [String.toList_append, List.drop_left' h, String.ofList_toList]
  unfold shown
  split
  · exact hmark ">>> " rfl
  · exact hmark "    " rfl

/-- A preview shows the lines nearby, each of them with its number. -/
theorem entries_eq_map_shown (lines : List String) (index : Int) :
    entries lines (index + 1) = (nearby lines index).map (shown index) := by
  have hnear (entry : String × Nat) :
      decide ((((entry.2 + 1 : Nat) : Int) - (index + 1)).natAbs ≤ 2) =
        decide (index - 2 ≤ entry.2 ∧ entry.2 ≤ index + 2) := by
    rw [decide_eq_decide]
    omega
  have hsame (entry : String × Nat) :
      ((entry.2 + 1 : Nat) : Int) = index + 1 ↔ (entry.2 : Int) = index := by omega
  rw [entries, nearby, List.zipIdx_succ, List.filter_map, List.map_map]
  simp only [Function.comp_def, hnear, hsame]
  rfl

/-- Of the lines near an index only the one at the index is shown with the mark of a target. -/
theorem filter_isMarked_nearby {lines : List String} {target : Nat} (h : target < lines.length) :
    (nearby lines target).filter (fun entry => isMarked (shown target entry)) =
      [(lines[target], target)] := by
  have hnear : (fun entry : String × Nat => isMarked (shown target entry) &&
        decide ((target : Int) - 2 ≤ entry.2 ∧ entry.2 ≤ (target : Int) + 2)) =
      fun entry => decide (target ≤ entry.2 ∧ entry.2 < target + 1) := by
    funext entry
    rw [isMarked_shown, ← Bool.decide_and, decide_eq_decide]
    omega
  rw [nearby, List.filter_filter, hnear, filter_zipIdx, Nat.max_zero, Nat.sub_zero,
    Nat.add_sub_cancel_left, List.drop_eq_getElem_cons h, List.take_succ_cons, List.take_zero,
    List.zipIdx_cons, List.zipIdx_nil]

/-- One line of a preview is marked, and it is the one that is asked for. -/
theorem filter_isMarked_entries {lines : List String} {target : Nat} (h : target < lines.length) :
    (entries lines (target + 1)).filter isMarked = [">>> " ++ lines[target]] := by
  have hone := congrArg (List.map (shown target)) (filter_isMarked_nearby h)
  rw [entries_eq_map_shown, List.filter_map]
  exact hone.trans (by simp [shown])

/-- **A preview can be read back**: cut at its breaks it gives the entries of the lines around its
target. -/
theorem cut_text {lines : List String} {target : Nat} (h : target < lines.length)
    (hlines : ∀ line ∈ lines, '\n' ∉ line.toList) :
    Text.cut '\n' (text lines target) = entries lines (target + 1) := by
  rw [← window_eq_entries]
  refine Text.cut_join (window_ne_nil h) fun entry hentry => ?_
  rw [window_eq_entries, entries] at hentry
  obtain ⟨⟨line, number⟩, hmem, rfl⟩ := List.mem_map.1 hentry
  obtain ⟨-, -, hline⟩ := List.mem_zipIdx (List.mem_filter.1 hmem).1
  have hplain := hlines line (hline ▸ List.getElem_mem _)
  split <;> simpa using hplain

/-- **A preview is exact and can be read back.**  It fails for an index outside of the file and for
no other.  Cut at its breaks it gives the lines that are at most two away from the index, in order
and without padding, each behind a mark of four characters, whatever the lines themselves look like;
and only the line at the index is shown with the mark of a target. -/
theorem extract_is_exact {lines : List String} (hlines : ∀ line ∈ lines, '\n' ∉ line.toList)
    (index : Int) :
    ((∃ e, extract lines index = .error e ∧ e.name = "IndexError") ↔
      index < 0 ∨ lines.length ≤ index) ∧
    (0 ≤ index → index < lines.length → ∃ text line, extract lines index = .ok text ∧
      Text.cut '\n' text = (nearby lines index).map (shown index) ∧
      (Text.cut '\n' text).map (fun entry => String.ofList (entry.toList.drop 4)) =
        (nearby lines index).map Prod.fst ∧
      lines[index.toNat]? = some line ∧
      (nearby lines index).filter (fun entry => isMarked (shown index entry)) =
        [(line, index.toNat)]) := by
  constructor
  · unfold extract
    split
    · simp
      omega
    · simp [Failure.name]
      omega
  · intro hpos hlt
    obtain ⟨target, rfl⟩ := Int.eq_ofNat_of_zero_le hpos
    have htarget : target < lines.length := by omega
    have hcut : Text.cut '\n' (text lines target) = (nearby lines target).map (shown target) := by
      rw [cut_text htarget hlines, entries_eq_map_shown]
    refine ⟨text lines target, lines[target], if_pos ⟨hpos, hlt⟩, hcut, ?_, ?_, ?_⟩
    · rw [hcut, List.map_map]
      exact List.map_congr_left fun entry _ => drop_shown target entry
    · exact List.getElem?_eq_getElem htarget
    · exact filter_isMarked_nearby htarget

/-- The hypothesis of `extract_is_exact` is satisfiable: behind an empty target stands a line that
looks like one. -/
theorem extract_is_exact_imitation :
    (∀ line ∈ ["", ">>> a"], '\n' ∉ line.toList) ∧
      ∃ text, extract ["", ">>> a"] 0 = .ok text ∧
        Text.cut '\n' text = [">>> ", "    >>> a"] := by
  have hlines : ∀ line ∈ ["", ">>> a"], '\n' ∉ line.toList := by decide
  obtain ⟨text, line, htext, hcut, -⟩ :=
    (extract_is_exact hlines 0).2 (by decide) (by decide)
  exact ⟨hlines, text, htext, hcut.trans (by decide)⟩

end Preview

/-- The lines of a file have no breaks in them. -/
theorem Workspace.Tree.notMem_of_readLines {tree : Workspace.Tree} {p : Workspace.Path}
    {lines : List String} (h : tree.readLines p = .ok lines) :
    ∀ line ∈ lines, '\n' ∉ line.toList := by
  unfold readLines at h
  split at h
  · exact nomatch h
  split at h
  · exact nomatch h
  obtain rfl := Except.ok.inj h
  intro line hline
  obtain ⟨chars, hchars, rfl⟩ := List.mem_map.1 hline
  rw [String.toList_ofList]
  exact fun hbreak => (Text.isPlain_of_mem_linesOf hchars _ hbreak).2 rfl

end DeclSearch
