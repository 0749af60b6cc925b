/-
# The first item of each key

Matches are merged by their sites and extensions by their lower case, and both are told apart in
the same way: a list is gone through with a memory of the keys that were met, and an item whose key
is in it is left out (`firsts`).

What is kept can be said without that memory: an item stays when its key is none of those seen
beforehand and no item in front of it has the same one (`firsts_eq`).  So no two of the kept items
share a key (`nodup_keys`), every new key keeps an item (`mem_keys_iff`), which is the first one
that has it (`exists_find?_eq_some`), and what is kept is kept once more (`firsts_of_subset`).
Leaving out all items of some keys beforehand or afterwards is the same (`filter_firsts`).
-/

import Mathlib.Data.List.Nodup

namespace DeclSearch

variable {α κ : Type} [DecidableEq κ] (key : α → κ)

/-- The items of a list whose key was not seen before, in order. -/
def firsts (seen : List κ) : List α → List α
  | [] => []
  | a :: rest =>
    if seen.contains (key a) then firsts seen rest else a :: firsts (key a :: seen) rest

/-- Whether the item at an index of a list has a key that is none of some keys and that no item in
front of it has. -/
def isFirst (seen : List κ) (l : List α) (entry : α × Nat) : Bool :=
  !seen.contains (key entry.1) && (l.take entry.2).all fun a => key a ≠ key entry.1

variable {key} {l : List α} {seen : List κ} {a : α}

/-- Behind an item, its key counts as seen. -/
theorem isFirst_cons (seen : List κ) (a : α) (rest : List α) (entry : α × Nat) :
    isFirst key seen (a :: rest) (entry.1, entry.2 + 1) =
      isFirst key (key a :: seen) rest entry := by
  rw [Bool.eq_iff_iff]
  simp only [isFirst, List.take_succ_cons, List.all_cons, Bool.and_eq_true, Bool.not_eq_true',
    List.contains_eq_mem, decide_eq_false_iff_not, decide_eq_true_eq, List.mem_cons, not_or]
  constructor
  · rintro ⟨hs, ha, hl⟩
    exact ⟨⟨Ne.symm ha, hs⟩, hl⟩
  · rintro ⟨⟨ha, hs⟩, hl⟩
    exact ⟨hs, Ne.symm ha, hl⟩

/-- A key that was seen can be noted again. -/
theorem isFirst_cons_of_mem {k : κ} (h : k ∈ seen) :
    isFirst key (k :: seen) = isFirst key seen := by
  funext l entry
  have hmem : (k :: seen).contains (key entry.1) = seen.contains (key entry.1) := by
    by_cases he : key entry.1 = k <;> simp [he, h]
  rw [isFirst, isFirst, hmem]

/-- **What is kept**: the items whose key is none of those seen and that have no item of the same
key in front of them. -/
theorem firsts_eq (l : List α) (seen : List κ) :
    firsts key seen l = (l.zipIdx.filter (isFirst key seen l)).map Prod.fst := by
  induction l generalizing seen with
  | nil => rfl
  | cons a rest ih =>
    have hrest : ((rest.zipIdx 1).filter (isFirst key seen (a :: rest))).map Prod.fst =
        firsts key (key a :: seen) rest := by
      rw [ih, List.zipIdx_succ, List.filter_map, List.map_map]
      exact congrArg _ (List.filter_congr fun entry _ => isFirst_cons seen a rest entry)
    rw [List.zipIdx_cons, Nat.zero_add, List.filter_cons, firsts]
    by_cases ha : key a ∈ seen
    · rw [if_pos (by simpa using ha), if_neg (by simp [isFirst, ha]), hrest, ih, ih,
        isFirst_cons_of_mem ha]
    · rw [if_neg (by simpa using ha), if_pos (by simp [isFirst, ha]), List.map_cons, hrest]

/-- The first items are among all items, and have keys that were not seen. -/
theorem mem_of_mem_firsts (h : a ∈ firsts key seen l) : a ∈ l ∧ key a ∉ seen := by
  induction l generalizing seen with
  | nil => simp [firsts] at h
  | cons b rest ih =>
    rw [firsts] at h
    split at h
    · exact ⟨List.mem_cons_of_mem _ (ih h).1, (ih h).2⟩
    · next hseen =>
      rcases List.mem_cons.1 h with rfl | h
      · exact ⟨List.mem_cons_self, by simpa using hseen⟩
      · exact ⟨List.mem_cons_of_mem _ (ih h).1, fun hm => (ih h).2 (List.mem_cons_of_mem _ hm)⟩

/-- No two of the kept items share a key. -/
theorem nodup_keys (l : List α) (seen : List κ) : ((firsts key seen l).map key).Nodup := by
  induction l generalizing seen with
  | nil => exact List.nodup_nil
  | cons a rest ih =>
    rw [firsts]
    split
    · exact ih seen
    · rw [List.map_cons, List.nodup_cons]
      refine ⟨fun hm => ?_, ih _⟩
      obtain ⟨other, hother, hkey⟩ := List.mem_map.1 hm
      exact (mem_of_mem_firsts hother).2 (hkey ▸ List.mem_cons_self)

/-- Every key that was not seen beforehand keeps an item. -/
theorem mem_keys_iff (l : List α) (seen : List κ) (k : κ) :
    k ∈ (firsts key seen l).map key ↔ k ∈ l.map key ∧ k ∉ seen := by
  induction l generalizing seen with
  | nil => simp [firsts]
  | cons a rest ih =>
    rw [firsts]
    split
    · next hseen =>
      rw [ih, List.map_cons, List.mem_cons]
      have ha : key a ∈ seen := by simpa using hseen
      exact ⟨fun h => ⟨.inr h.1, h.2⟩, fun h => ⟨h.1.resolve_left fun he => h.2 (he ▸ ha), h.2⟩⟩
    · next hseen =>
      rw [List.map_cons, List.mem_cons, ih, List.map_cons, List.mem_cons]
      have ha : key a ∉ seen := by simpa using hseen
      by_cases he : k = key a
      · simp [he, ha]
      · simp [he]

/-- Which of the items of a key stays does not depend on the items of other keys. -/
theorem filter_firsts {q : κ → Bool} {seen other : List κ}
    (hseen : ∀ k, q k → (k ∈ seen ↔ k ∈ other)) (l : List α) :
    (firsts key seen l).filter (fun a => q (key a)) =
      firsts key other (l.filter fun a => q (key a)) := by
  induction l generalizing seen other with
  | nil => rfl
  | cons a rest ih =>
    rw [firsts, List.filter_cons]
    by_cases ha : q (key a)
    · have hmem := hseen (key a) ha
      rw [if_pos ha, firsts]
      by_cases hs : key a ∈ seen
      · rw [if_pos (by simpa using hs), if_pos (by simpa using hmem.1 hs), ih hseen]
      · have hseen (k : κ) (hk : q k) : k ∈ key a :: seen ↔ k ∈ key a :: other := by
          simp [hseen k hk]
        rw [if_neg (by simpa using hs), if_neg (by simpa using fun h => hs (hmem.2 h)),
          List.filter_cons, if_pos ha, ih hseen]
    · rw [if_neg ha]
      split
      · exact ih hseen
      · have hk (k : κ) (hk : q k) : k ∈ key a :: seen ↔ k ∈ other := by
          rw [List.mem_cons, hseen k hk]
          exact or_iff_right fun he => ha (he ▸ hk)
        rw [List.filter_cons, if_neg ha, ih hk]

/-- What is kept of a key is the first item of the list that has it. -/
theorem exists_find?_eq_some (ha : a ∈ l) (hseen : key a ∉ seen) :
    ∃ kept ∈ firsts key seen l, l.find? (fun other => key other = key a) = some kept := by
  induction l generalizing seen with
  | nil => exact absurd ha List.not_mem_nil
  | cons b rest ih =>
    by_cases hb : key b = key a
    · refine ⟨b, ?_, by simp [hb]⟩
      rw [firsts, if_neg (by simpa [hb] using hseen)]
      exact List.mem_cons_self
    · have hrest : a ∈ rest := (List.mem_cons.1 ha).resolve_left fun he => hb (he ▸ rfl)
      rw [List.find?_cons_of_neg (by simpa using hb), firsts]
      split
      · exact ih hrest hseen
      · have hseen : key a ∉ key b :: seen := by simpa using ⟨Ne.symm hb, hseen⟩
        obtain ⟨kept, hkept, hfind⟩ := ih hrest hseen
        exact ⟨kept, List.mem_cons_of_mem _ hkept, hfind⟩

/-- **Items that were told apart are kept**, whichever of the keys seen are remembered. -/
theorem firsts_of_subset {fewer : List κ} (h : fewer ⊆ seen) (l : List α) :
    firsts key fewer (firsts key seen l) = firsts key seen l := by
  induction l generalizing seen fewer with
  | nil => rfl
  | cons a rest ih =>
    rw [firsts]
    split
    · exact ih h
    · next hnew =>
      have hfewer : ¬ fewer.contains (key a) = true := fun hmem =>
        hnew (List.contains_iff_mem.2 (h (List.contains_iff_mem.1 hmem)))
      rw [firsts, if_neg hfewer, ih (List.cons_subset_cons _ h)]

end DeclSearch
