/-
# Cutting undoes joining

`Text.cutOnto` keeps the parts it has found and the part it is reading; what it comes to is
the list that the library calls `List.splitOn` (`cutChars_eq_splitOn`).  From there it
follows that joining the parts of a text gives the text back (`join_cut`), and that cutting
joined parts gives the parts back when the separator occurs in none of them (`cut_join`).
-/

import DeclSearch.Text.Pieces
import Mathlib.Data.List.Basic

namespace DeclSearch
namespace Text

/-- Cutting a text is splitting a list, with what was cut before in front. -/
theorem cutOnto_eq_splitOnPPrepend (sep : Char) (parts : List (List Char))
    (part cs : List Char) :
    cutOnto sep parts part cs = parts.reverse ++ cs.splitOnPPrepend (· == sep) part := by
  induction cs generalizing parts part with
  | nil => simp [cutOnto]
  | cons c rest ih =>
    rw [cutOnto, List.splitOnPPrepend_cons_eq_if]
    by_cases hc : c = sep
    · simp [hc, ih]
    · simp [hc, ih]

/-- The parts of a list are those that the library cuts it into. -/
theorem cutChars_eq_splitOn (sep : Char) (cs : List Char) : cutChars sep cs = cs.splitOn sep :=
  cutOnto_eq_splitOnPPrepend sep [] [] cs

/-- There is always a part. -/
theorem cut_ne_nil (sep : Char) (s : String) : cut sep s ≠ [] := by
  simp [cut, cutChars_eq_splitOn]

/-- **The parts of a text, joined, are the text.** -/
theorem join_cut (sep : Char) (s : String) : join (String.singleton sep) (cut sep s) = s := by
  rw [← String.toList_inj, join, String.toList_intercalate, cut, cutChars_eq_splitOn,
    List.map_map, String.toList_singleton]
  simp [Function.comp_def]

/-- **Joined parts, cut, are the parts**, if the separator occurs in none of them. -/
theorem cut_join {sep : Char} {parts : List String} (hparts : parts ≠ [])
    (hsep : ∀ part ∈ parts, sep ∉ part.toList) :
    cut sep (join (String.singleton sep) parts) = parts := by
  rw [cut, cutChars_eq_splitOn, join, String.toList_intercalate, String.toList_singleton,
    List.splitOn_intercalate]
  · simp
  · simpa using hsep
  · simpa using hparts

/-- A text without separators is one part. -/
theorem cut_of_notMem {sep : Char} {s : String} (h : sep ∉ s.toList) : cut sep s = [s] := by
  simpa [join] using cut_join (List.cons_ne_nil s []) (List.forall_mem_singleton.2 h)

/-- The parts of two texts with a separator in between are those of the one and of the other. -/
theorem cut_append (sep : Char) (s t : String) :
    cut sep (s ++ String.singleton sep ++ t) = cut sep s ++ cut sep t := by
  simp only [cut, cutChars_eq_splitOn, String.toList_append, String.toList_singleton,
    List.append_assoc, List.singleton_append, ← List.map_append]
  exact congrArg _ (List.splitOnP_append_cons _ _ (beq_self_eq_true sep))

/-- **Joined texts, cut, are the parts of each of them.** -/
theorem cut_join_eq_flatMap {sep : Char} {texts : List String} (h : texts ≠ []) :
    cut sep (join (String.singleton sep) texts) = texts.flatMap (cut sep) := by
  induction texts with
  | nil => exact absurd rfl h
  | cons s texts ih =>
    rcases eq_or_ne texts [] with rfl | htexts
    · simp [join]
    · rw [join, String.intercalate_cons_of_ne_nil htexts, cut_append, List.flatMap_cons]
      exact congrArg _ (ih htexts)

/-- No part holds a separator. -/
theorem notMem_of_mem_cutOnto {sep : Char} {parts : List (List Char)} {part cs : List Char}
    (hparts : ∀ l ∈ parts, sep ∉ l) (hpart : sep ∉ part) :
    ∀ l ∈ cutOnto sep parts part cs, sep ∉ l := by
  have hmore : ∀ l ∈ part.reverse :: parts, sep ∉ l :=
    List.forall_mem_cons.2 ⟨by simpa using hpart, hparts⟩
  induction cs generalizing parts part with
  | nil => exact fun l hl => hmore l (List.mem_reverse.1 hl)
  | cons c rest ih =>
    rw [cutOnto]
    split
    · exact ih hmore (by simp) (List.forall_mem_cons.2 ⟨by simp, hmore⟩)
    · next hc =>
      have hpart : sep ∉ c :: part := by simpa using ⟨Ne.symm hc, hpart⟩
      exact ih hparts hpart
        (List.forall_mem_cons.2 ⟨fun hmem => hpart (List.mem_reverse.1 hmem), hparts⟩)

/-- The separator occurs in no part. -/
theorem notMem_of_mem_cut {sep : Char} {s part : String} (h : part ∈ cut sep s) :
    sep ∉ part.toList := by
  obtain ⟨l, hl, rfl⟩ := List.mem_map.1 h
  rw [String.toList_ofList]
  exact notMem_of_mem_cutOnto (by simp) (by simp) l hl

/-- A text in front goes to the first part, if the separator does not occur in it. -/
theorem cut_append_of_notMem {sep : Char} {front : String} (h : sep ∉ front.toList) (s : String) :
    ∃ first rest, cut sep s = first :: rest ∧ cut sep (front ++ s) = (front ++ first) :: rest := by
  rcases hcut : cut sep s with _ | ⟨first, rest⟩
  · exact absurd hcut (cut_ne_nil sep s)
  refine ⟨first, rest, rfl, ?_⟩
  have hparts : ∀ part ∈ first :: rest, sep ∉ part.toList := fun part hpart =>
    notMem_of_mem_cut (hcut ▸ hpart)
  obtain ⟨hfirst, hrest⟩ := List.forall_mem_cons.1 hparts
  have hjoin : front ++ s = join (String.singleton sep) ((front ++ first) :: rest) := by
    rw [← join_cut sep s, hcut]
    rcases eq_or_ne rest [] with rfl | hne
    · simp [join]
    · simp only [join, String.intercalate_cons_of_ne_nil hne, String.append_assoc]
  rw [hjoin]
  refine cut_join (List.cons_ne_nil _ _) (List.forall_mem_cons.2 ⟨?_, hrest⟩)
  rw [String.toList_append, List.mem_append]
  exact not_or.2 ⟨h, hfirst⟩

/-- Whether a text ends in a part of its own: it is the part, or the part stands behind a
dot. -/
def EndsIn (s part : String) : Prop := s = part ∨ ∃ front, s = front ++ "." ++ part

/-- A text ends in the last of its dotted parts. -/
theorem endsIn_getLastD_cut (s : String) : EndsIn s ((cut '.' s).getLastD "") := by
  have hjoin := join_cut '.' s
  rcases List.eq_nil_or_concat (cut '.' s) with hnil | ⟨front, last, hlast⟩
  · exact absurd hnil (cut_ne_nil '.' s)
  · rw [hlast] at hjoin ⊢
    rw [List.concat_eq_append, join] at hjoin
    by_cases hfront : front = []
    · left
      simpa [hfront] using hjoin.symm
    · right
      refine ⟨join "." front, ?_⟩
      rw [String.intercalate_append_of_ne_nil hfront (by simp), String.intercalate_singleton]
        at hjoin
      simpa [join] using hjoin.symm

end Text
end DeclSearch
