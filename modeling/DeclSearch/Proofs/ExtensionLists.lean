/-
# Lists of extensions

What a list of extensions comes to can be said without going through it: the entries that are not
blank, trimmed and with a dot in front (`Extension.entries`), and of those that differ in letter
case the first spelling (`Extension.firstSpellings`).  Nothing is lost by leaving the others out,
since a file is wanted under one of them if it is wanted under another
(`Extension.wants_firstSpellings`).
-/

import DeclSearch.Proofs.Candidates
import DeclSearch.Proofs.Extensions
import DeclSearch.Proofs.Pieces
import DeclSearch.Request

namespace DeclSearch
namespace Extension

open Workspace (Path Tree Quest)

/-- The entries of a list that are not blank, trimmed and with a dot in front. -/
def entries (raws : List String) : List String :=
  ((raws.map Text.trim).filter (· ≠ "")).map fun e =>
    if e.toList.head? = some '.' then e else "." ++ e

/-- The entries of a list in front of which no entry stands that differs in letter case alone. -/
def firstSpellings (l : List String) : List String :=
  (l.zipIdx.filter fun entry =>
    (l.take entry.2).all fun earlier => Text.lower earlier ≠ Text.lower entry.1).map Prod.fst

/-- The first spellings are the first items by their lowered texts. -/
theorem firsts_eq_firstSpellings (l : List String) :
    firsts Text.lower [] l = firstSpellings l := by
  rw [firsts_eq]
  rfl

/-- An entry is trimmed, and a dot is put in front if there is none; a blank one is none. -/
theorem dotted?_eq (raw : String) :
    dotted? raw = if Text.trim raw = "" then none
      else some (if (Text.trim raw).toList.head? = some '.' then Text.trim raw
        else "." ++ Text.trim raw) := by
  unfold dotted? Text.trim
  split
  · next h => simp [h]
  · next rest h => simp [h]
  · next hne hdot =>
    have hhead : (Text.trimChars raw.toList).head? ≠ some '.' := fun hhead =>
      (List.head?_eq_some_iff.1 hhead).elim hdot
    have hdotted : String.ofList ('.' :: Text.trimChars raw.toList) =
        "." ++ String.ofList (Text.trimChars raw.toList) := by
      rw [← String.toList_inj]
      simp
    simp [show Text.trimChars raw.toList ≠ [] from hne, hhead, hdotted]

/-- The entries of a list are what its texts give one by one. -/
theorem filterMap_dotted? (raws : List String) : raws.filterMap dotted? = entries raws := by
  induction raws with
  | nil => rfl
  | cons raw rest ih =>
    have hrest : entries (raw :: rest) = (if Text.trim raw = "" then entries rest
        else (if (Text.trim raw).toList.head? = some '.' then Text.trim raw
          else "." ++ Text.trim raw) :: entries rest) := by
      by_cases hblank : Text.trim raw = "" <;> simp [entries, hblank]
    rw [List.filterMap_cons, dotted?_eq, hrest, ih]
    by_cases hblank : Text.trim raw = ""
    · rw [if_pos hblank, if_pos hblank]
    · rw [if_neg hblank, if_neg hblank]

/-- **The normal form of a list**: the first spelling of every entry, or the defaults if there is no
entry. -/
theorem normalize_eq (raws : List String) :
    normalize raws = if entries raws = [] then defaults else firstSpellings (entries raws) := by
  unfold normalize
  rw [filterMap_dotted?, distinct_eq_firsts, firsts_eq_firstSpellings]
  rcases hentries : entries raws with _ | ⟨e, rest⟩
  · rfl
  · rw [if_neg (List.cons_ne_nil e rest), ← firsts_eq_firstSpellings, firsts]
    rfl

/-- An extension in normal form starts with a dot and has no blanks around it. -/
theorem of_mem_normalize {raws : List String} {e : String} (h : e ∈ normalize raws) :
    e.toList.head? = some '.' ∧ Text.trim e = e := by
  have hdefaults : ∀ e ∈ defaults, e.toList.head? = some '.' ∧ Text.trim e = e := by decide
  unfold normalize at h
  split at h
  · exact hdefaults e h
  · rw [distinct_eq_firsts] at h
    obtain ⟨raw, -, hraw⟩ := List.mem_filterMap.1 (mem_of_mem_firsts h).1
    obtain ⟨cs, rfl, htrimmed⟩ := exists_of_dotted?_eq_some hraw
    exact ⟨by simp, by rw [Text.trim, String.toList_ofList, htrimmed]⟩

/-- No two extensions in normal form differ in case alone. -/
theorem nodup_lower_normalize (raws : List String) : ((normalize raws).map Text.lower).Nodup := by
  rw [normalize_eq]
  split
  · decide
  · rw [← firsts_eq_firstSpellings]
    exact nodup_keys _ _

/-- A list that is written with commas is read back, unless there is a comma in one of its texts. -/
theorem ofCsv_join {raws : List String} (h : ∀ raw ∈ raws, ',' ∉ raw.toList) :
    ofCsv (Text.join "," raws) = normalize raws := by
  rcases eq_or_ne raws [] with rfl | hne
  · rfl
  · rw [ofCsv]
    exact congrArg normalize (Text.cut_join hne h)

/-- **Leaving out other spellings makes no difference to which files are wanted.** -/
theorem wants_firstSpellings (l excluded : List String) (name : String) :
    (Quest.of (firstSpellings l) excluded).wants name = (Quest.of l excluded).wants name := by
  -- Whether a file is wanted is decided by the keys, and every key keeps an entry.
  have hwants (exts : List String) : (Quest.of exts excluded).wants name ↔
      ∃ k ∈ exts.map Text.lower, k.toList <:+ (Text.lower name).toList := by
    simp [Tree.wants_of_iff]
  have hkeys (k : String) : k ∈ (firstSpellings l).map Text.lower ↔ k ∈ l.map Text.lower := by
    rw [← firsts_eq_firstSpellings, mem_keys_iff]
    exact and_iff_left List.not_mem_nil
  simp only [Bool.eq_iff_iff, hwants, hkeys]

/-- No entries are left if all of them are blank. -/
theorem entries_eq_nil_iff (raws : List String) :
    entries raws = [] ↔ ∀ raw ∈ raws, Text.allBlank raw = true := by
  simp [entries, List.filter_eq_nil_iff, Text.trim_eq_empty_iff]

/-- **The normal form of a list loses nothing.**  It is not empty; its entries start with a dot, are
trimmed and differ in more than letter case; they are the first spellings of the entries that are
not blank, in their order, or the defaults where all are blank.  Bringing the list into normal form
again changes nothing, nor does building a request around the extensions of one.  A list written
with commas has the same normal form, and a walk with the normal form finds the same files as one
with all entries that are not blank, in any tree. -/
theorem normalize_loses_nothing (raws : List String) :
    normalize raws ≠ [] ∧
    (∀ e ∈ normalize raws, e.toList.head? = some '.' ∧ Text.trim e = e) ∧
    ((normalize raws).map Text.lower).Nodup ∧
    normalize raws = (if entries raws = [] then defaults else firstSpellings (entries raws)) ∧
    normalize (normalize raws) = normalize raws ∧
    (∀ root query exact caseSensitive maxResults references r,
      Request.build root query exact caseSensitive raws maxResults references = .ok r →
      r.extensions = normalize raws ∧
      Request.build r.root r.query r.exact r.caseSensitive r.extensions r.maxResults
        r.references = .ok r) ∧
    ((∀ raw ∈ raws, ',' ∉ raw.toList) → ofCsv (Text.join "," raws) = normalize raws) ∧
    ((∃ raw ∈ raws, Text.allBlank raw = false) → ∀ (tree : Tree) (root : Path) excluded,
      tree.walkFiles root (Quest.of (normalize raws) excluded) =
        tree.walkFiles root (Quest.of (entries raws) excluded)) := by
  refine ⟨normalize_ne_nil raws, fun e => of_mem_normalize, nodup_lower_normalize raws,
    normalize_eq raws, normalize_normalize raws, ?_, ofCsv_join, ?_⟩
  · intro root query exact caseSensitive maxResults references r h
    unfold Request.build at h
    split at h
    · next hquery =>
      split at h
      · next hmax =>
        obtain rfl := Except.ok.inj h
        refine ⟨rfl, ?_⟩
        rw [Request.build, dif_pos hquery, dif_pos hmax]
        simp [normalize_normalize]
      · exact nomatch h
    · exact nomatch h
  · rintro ⟨raw, hraw, hblank⟩ tree root excluded
    have hentries : entries raws ≠ [] := fun hnil => by
      rw [(entries_eq_nil_iff raws).1 hnil raw hraw] at hblank
      exact nomatch hblank
    have hwalk : tree.walk root (Quest.of (firstSpellings (entries raws)) excluded) =
        tree.walk root (Quest.of (entries raws) excluded) := by
      refine Tree.walk_congr tree ?_ (wants_firstSpellings (entries raws) excluded) root
      rfl
    rw [normalize_eq, if_neg hentries, Tree.walkFiles, Tree.walkFiles, hwalk]

/-- The hypotheses in `normalize_loses_nothing` are satisfiable: a list with blanks, without dots
and with two spellings. -/
theorem normalize_loses_nothing_spellings :
    (∀ raw ∈ [" py", ".PY", "", "cs"], ',' ∉ raw.toList) ∧
      (∃ raw ∈ [" py", ".PY", "", "cs"], Text.allBlank raw = false) ∧
      ofCsv " py,.PY,,cs" = [".py", ".cs"] ∧ ∀ (tree : Tree) (root : Path),
        tree.walkFiles root (Quest.of [".py", ".cs"] []) =
          tree.walkFiles root (Quest.of [".py", ".PY", ".cs"] []) := by
  have hcommas : ∀ raw ∈ [" py", ".PY", "", "cs"], ',' ∉ raw.toList := by decide
  have hsome : ∃ raw ∈ [" py", ".PY", "", "cs"], Text.allBlank raw = false := by decide
  have hnormal : normalize [" py", ".PY", "", "cs"] = [".py", ".cs"] := by decide
  have hentries : entries [" py", ".PY", "", "cs"] = [".py", ".PY", ".cs"] := by decide
  obtain ⟨-, -, -, -, -, -, hcsv, hwalk⟩ := normalize_loses_nothing [" py", ".PY", "", "cs"]
  refine ⟨hcommas, hsome, (hcsv hcommas).trans hnormal, fun tree root => ?_⟩
  rw [← hnormal, ← hentries]
  exact hwalk hsome tree root []

end Extension
end DeclSearch
