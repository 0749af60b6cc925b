/-
# Which lines declare a name

A line declares a name, whatever its case, if the name stands somewhere in it behind one of seven
words or in front of one of five marks (`Shape.classify_ignoring_case`).  The six shapes are only an
order in which this is tried (`Shape.exists_surrounds_iff`), and it does not matter that a place
where the name stands may lie inside of an occurrence that was found before: one is enough.
-/

import DeclSearch.Proofs.Hits

namespace DeclSearch
namespace Shape

/-- The words that make a declaration of the name behind them. -/
def declaringWords : List String :=
  ["class", "interface", "struct", "enum", "record", "type", "typedef"]

/-- The marks that make a declaration of the name in front of them. -/
def declaringMarks : List Char := [':', '=', '(', '<', '[']

/-- A line has a kind exactly if it declares the query. -/
theorem isSome_classify_iff {line query : String} {caseSensitive : Bool} :
    (classify line query caseSensitive).isSome ↔ declares line query caseSensitive := by
  rw [classify]
  split <;> simp [*]

/-- **The six shapes**, without their order. -/
theorem exists_surrounds_iff {o : Occurrence} :
    (∃ shape : Shape, shape.sign.Surrounds o) ↔
      (∃ word ∈ declaringWords, o.FollowsWord word) ∨
        ∃ mark ∈ declaringMarks, o.PrecedesMark mark := by
  constructor
  · rintro ⟨shape, h⟩
    cases shape with
    | typeKeyword | aliasKeyword =>
      obtain ⟨word, hmem, hword⟩ := h
      exact .inl ⟨word, (show _ ⊆ declaringWords by decide) hmem, hword⟩
    | assignment | call | generic | index =>
      obtain ⟨mark, hmem, hmark⟩ := h
      exact .inr ⟨mark, (show _ ⊆ declaringMarks by decide) hmem, hmark⟩
  · rintro (⟨word, hmem, hword⟩ | ⟨mark, hmem, hmark⟩)
    · have hparts : word ∈ ["class", "interface", "struct", "enum", "record"] ++
          ["type", "typedef"] := hmem
      rcases List.mem_append.1 hparts with hfirst | hsecond
      · exact ⟨.typeKeyword, word, hfirst, hword⟩
      · exact ⟨.aliasKeyword, word, hsecond, hword⟩
    · simp only [declaringMarks, List.mem_cons, List.not_mem_nil, or_false] at hmem
      rcases hmem with rfl | rfl | rfl | rfl | rfl
      · exact ⟨.assignment, ':', by decide, hmark⟩
      · exact ⟨.assignment, '=', by decide, hmark⟩
      · exact ⟨.call, '(', by decide, hmark⟩
      · exact ⟨.generic, '<', by decide, hmark⟩
      · exact ⟨.index, '[', by decide, hmark⟩

/-- **A line declares a name, whatever its case, if the name stands in it somehow.** What is listed
stands in the line (`exists_occurrence_of_mem_hits`), and where something stands in the line
something is listed (`exists_mem_hits`), though perhaps another occurrence that covers it. -/
theorem declares_ignoring_case_iff {line query : String} :
    declares line query false ↔ ∃ o : Occurrence, o.line = line.toList ∧
      SameLetters query.toList o.name ∧ ∃ shape : Shape, shape.sign.Surrounds o := by
  rw [declares_iff]
  constructor
  · rintro ⟨shape, hit, hhit, -⟩
    obtain ⟨o, hline, hsurrounds, hsame, -⟩ := exists_occurrence_of_mem_hits hhit
    exact ⟨o, hline, hsame, shape, hsurrounds⟩
  · rintro ⟨o, hline, hsame, shape, hsurrounds⟩
    obtain ⟨hit, hhit, -⟩ := exists_mem_hits hline hsurrounds hsame
    exact ⟨shape, hit, hhit, nofun⟩

/-- What is found first among items that all give the same. -/
theorem findSome?_ite {α β : Type} (p : α → Bool) (b : β) (l : List α) :
    (l.findSome? fun a => if p a then some b else none) = if l.any p then some b else none := by
  induction l with
  | nil => rfl
  | cons a l ih => cases hp : p a <;> simp [hp, ih]

/-- **Rules that are made ready before give the same answer.** -/
theorem classifyBy_rulesFor (line query : String) (caseSensitive : Bool) :
    classifyBy (rulesFor query) line query caseSensitive = classify line query caseSensitive := by
  simp only [classifyBy, findSome?_ite, rulesFor, List.any_map]
  rfl

/-- **Exact matching, without regard to case.**  A line is taken for a declaration of a name exactly
when the name, letter for letter up to case, stands somewhere in the line behind one of the seven
words and one or more blanks, from a word boundary to a word boundary, or from a word boundary on in
front of one of the five marks, perhaps with blanks in between.  What it declares is what its
keywords say, and rules that were made ready for the name before give the same answer. -/
theorem classify_ignoring_case (line query : String) :
    ((classify line query false).isSome ↔ ∃ o : Occurrence, o.line = line.toList ∧
      SameLetters query.toList o.name ∧
        ((∃ word ∈ ["class", "interface", "struct", "enum", "record", "type", "typedef"],
            o.FollowsWord word) ∨
          ∃ mark ∈ [':', '=', '(', '<', '['], o.PrecedesMark mark)) ∧
    (∀ kind, classify line query false = some kind → kind = LineKind.ofLine line) ∧
    classifyBy (rulesFor query) line query false = classify line query false := by
  refine ⟨?_, fun kind hkind => ?_, classifyBy_rulesFor line query false⟩
  · rw [isSome_classify_iff, declares_ignoring_case_iff]
    simp only [exists_surrounds_iff, declaringWords, declaringMarks]
  · rw [classify] at hkind
    split at hkind
    · exact (Option.some.inj hkind).symm
    · exact nomatch hkind

end Shape
end DeclSearch
