/-
# The normal form of extensions

An extension in normal form has no blanks at its ends and starts with a dot, so the form of it is
itself (`Extension.dotted?_of_dotted?`).  Of extensions that differ in letter case the first one is
kept (`Extension.distinct_eq_firsts`), so a list of such extensions that differ in more than that
stays as it is.  Bringing a list into normal form twice is therefore the same as doing it once
(`Extension.normalize_normalize`), whoever does it first.
-/

import DeclSearch.Extension
import DeclSearch.Proofs.Firsts
import Mathlib.Data.List.Basic
import Mathlib.Data.List.TakeWhile

namespace DeclSearch
namespace Text

/-- What is left behind leading blanks does not start with one. -/
theorem head?_trimStartChars {cs : List Char} {c : Char} (h : (trimStartChars cs).head? = some c) :
    isBlank c = false := by
  induction cs with
  | nil => exact nomatch h
  | cons first rest ih =>
    rw [trimStartChars, List.dropWhile_cons] at h
    split at h
    · exact ih h
    · next hfirst =>
      rw [← Option.some.inj h]
      simpa using hfirst

/-- A text that does not start with a blank is left as it is. -/
theorem trimStartChars_eq_self {cs : List Char} (h : ∀ c, cs.head? = some c → isBlank c = false) :
    trimStartChars cs = cs := by
  rcases cs with _ | ⟨c, cs⟩
  · rfl
  · rw [trimStartChars, List.dropWhile_cons, if_neg (by simp [h c rfl])]

/-- A trimmed text has no blanks at its ends. -/
theorem ends_trimChars (cs : List Char) {c : Char}
    (h : (trimChars cs).head? = some c ∨ (trimChars cs).getLast? = some c) : isBlank c = false := by
  rcases h with h | h
  · -- What is left of a text without blanks at its front starts as the text does.
    have hfront : trimChars cs <+: trimStartChars cs := by
      rw [← List.reverse_suffix, trimChars, List.reverse_reverse]
      exact List.dropWhile_suffix _
    obtain ⟨rest, hrest⟩ := hfront
    have hhead : (trimStartChars cs).head? = some c := by
      rw [← hrest, List.head?_append, h]
      rfl
    exact head?_trimStartChars hhead
  · rw [trimChars, List.getLast?_reverse] at h
    exact head?_trimStartChars h

/-- A text without blanks at its ends is trimmed. -/
theorem trimChars_eq_self {cs : List Char}
    (h : ∀ c, cs.head? = some c ∨ cs.getLast? = some c → isBlank c = false) :
    trimChars cs = cs := by
  rw [trimChars, trimStartChars_eq_self fun c hc => h c (.inl hc),
    trimStartChars_eq_self fun c hc => h c (.inr (by rwa [List.head?_reverse] at hc)),
    List.reverse_reverse]

/-- Nothing is left of a text of blanks, and of no other. -/
theorem trim_eq_empty_iff (s : String) : trim s = "" ↔ allBlank s = true := by
  have hstart : trimStartChars s.toList = [] ↔ allBlank s = true := by
    rw [trimStartChars, List.dropWhile_eq_nil_iff, allBlank, List.all_eq_true]
  rw [← hstart, trim, ← String.toList_inj, String.toList_ofList, trimChars]
  constructor
  · intro h
    have hrest : ∀ c ∈ (trimStartChars s.toList).reverse, isBlank c := by
      simpa [trimStartChars, List.dropWhile_eq_nil_iff] using h
    rcases hfront : trimStartChars s.toList with _ | ⟨c, rest⟩
    · rfl
    · have hhead : (trimStartChars s.toList).head? = some c := by rw [hfront, List.head?_cons]
      have hc := head?_trimStartChars hhead
      rw [hrest c (by simp [hfront])] at hc
      exact nomatch hc
  · intro h
    rw [h]
    rfl

end Text

namespace Extension

/-- The text behind the blanks of an entry, with a dot in front. -/
theorem dotted?_of_trimmed {cs : List Char} (h : Text.trimChars ('.' :: cs) = '.' :: cs) :
    dotted? (String.ofList ('.' :: cs)) = some (String.ofList ('.' :: cs)) := by
  rw [dotted?, String.toList_ofList, h]
  rfl

/-- An extension in normal form starts with a dot and is trimmed. -/
theorem exists_of_dotted?_eq_some {raw e : String} (h : dotted? raw = some e) :
    ∃ cs, e = String.ofList ('.' :: cs) ∧ Text.trimChars ('.' :: cs) = '.' :: cs := by
  have hends (c : Char) := @Text.ends_trimChars raw.toList c
  unfold dotted? at h
  split at h
  · exact nomatch h
  · next rest htrimmed =>
    rw [htrimmed] at hends
    exact ⟨rest, (Option.some.inj h).symm, Text.trimChars_eq_self hends⟩
  · next hne _ =>
    refine ⟨_, (Option.some.inj h).symm, Text.trimChars_eq_self fun c hc => ?_⟩
    rcases hc with hc | hc
    · rw [← Option.some.inj hc]
      decide
    · rw [List.getLast?_cons_of_ne_nil hne] at hc
      exact hends c (.inr hc)

/-- **The form of an extension in normal form is itself.** -/
theorem dotted?_of_dotted? {raw e : String} (h : dotted? raw = some e) : dotted? e = some e := by
  obtain ⟨cs, rfl, htrimmed⟩ := exists_of_dotted?_eq_some h
  exact dotted?_of_trimmed htrimmed

/-- Extensions are told apart by their lower case. -/
theorem distinct_eq_firsts (l seen : List String) : distinct seen l = firsts Text.lower seen l := by
  induction l generalizing seen with
  | nil => rfl
  | cons e rest ih => rw [distinct, firsts, ih, ih]

/-- **There is always an extension to search for.** -/
theorem normalize_ne_nil (raws : List String) : normalize raws ≠ [] := by
  unfold normalize
  split
  · decide
  · next hne => exact hne

/-- **A list in normal form stays as it is.** -/
theorem normalize_normalize (raws : List String) : normalize (normalize raws) = normalize raws := by
  have hkept : ∀ e ∈ distinct [] (raws.filterMap dotted?), dotted? e = some e := by
    intro e he
    rw [distinct_eq_firsts] at he
    obtain ⟨raw, -, hraw⟩ := List.mem_filterMap.1 (mem_of_mem_firsts he).1
    exact dotted?_of_dotted? hraw
  unfold normalize
  rcases hexts : distinct [] (raws.filterMap dotted?) with _ | ⟨e, rest⟩
  · decide
  · rw [hexts] at hkept
    have hagain : (e :: rest).filterMap dotted? = e :: rest := by
      rw [List.filterMap_congr hkept, List.filterMap_some]
    dsimp only
    rw [hagain, ← hexts, distinct_eq_firsts, distinct_eq_firsts,
      firsts_of_subset (List.Subset.refl []), ← distinct_eq_firsts, hexts]

end Extension
end DeclSearch
