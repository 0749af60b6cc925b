/-
# The occurrences that are listed

The occurrences of a shape in a line are listed from left to right, and the text that one of them
takes is not looked at again.  So what is listed stands in the line
(`Shape.exists_occurrence_of_mem_hits`), and what stands in the line is listed or starts inside of
something that is (`Shape.exists_mem_hits`).  The inductions are on the text that is left to go
through, of which the first characters may have to be passed over.
-/

import DeclSearch.Proofs.Shapes

namespace DeclSearch
namespace Shape

open Text (isBlank)

/-- An occurrence takes at least one character. -/
theorem Sign.Surrounds.size_pos {sign : Sign} {o : Occurrence} (h : sign.Surrounds o) :
    0 < o.size := by
  cases sign with
  | before keywords =>
    obtain ⟨keyword, -, -, ⟨found, blanks, hlead, -, hne, -⟩, -⟩ := h
    have hpos := List.length_pos_iff.2 hne
    rw [Occurrence.size, hlead, List.length_append]
    omega
  | behind marks =>
    obtain ⟨mark, -, -, -, blanks, htail, -⟩ := h
    rw [Occurrence.size, htail, List.length_append, List.length_singleton]
    omega

/-- What is listed for an occurrence. -/
def Occurrence.hit (o : Occurrence) : Hit := ⟨o.start, o.stop, o.name⟩

/-- The place of the name in the line from the start of an occurrence on. -/
theorem Occurrence.take_drop_rest (o : Occurrence) :
    (o.rest.drop o.fit.offset).take o.fit.nameSize = o.name := by
  rw [rest, fit, List.drop_left, List.take_left]

/-- **What is listed stands in the line**, behind what was passed over. The induction is on what is
left of the line; what stands in front of it only matters by its length and its last character. -/
theorem exists_occurrence_of_mem_hitsFrom {sign : Sign} {query cs : List Char} {hit : Hit}
    (front : List Char) (skip : Nat)
    (h : hit ∈ hitsFrom sign query front.length skip front.getLast? cs) :
    ∃ o : Occurrence, o.line = front ++ cs ∧ sign.Surrounds o ∧ SameLetters query o.name ∧
      o.hit = hit ∧ front.length + skip ≤ o.start := by
  induction cs generalizing front skip with
  | nil => simp [hitsFrom] at h
  | cons c cs ih =>
    have hnext {skip : Nat}
        (h : hit ∈ hitsFrom sign query (front.length + 1) skip (some c) cs) :
        ∃ o : Occurrence, o.line = front ++ c :: cs ∧ sign.Surrounds o ∧
          SameLetters query o.name ∧ o.hit = hit ∧ front.length + 1 + skip ≤ o.start := by
      obtain ⟨o, hline, hrest⟩ := ih (front ++ [c]) skip (by simpa using h)
      exact ⟨o, by simpa using hline, by simpa using hrest⟩
    -- A hit starts at this character, or the hit comes from what is behind it.
    rcases skip with _ | skip
    · rw [hitsFrom] at h
      split at h
      · next fit hfit =>
        rcases List.mem_cons.1 h with rfl | h
        · obtain ⟨o, rfl, hrest, hsurrounds, hsame, rfl⟩ := Sign.exists_occurrence_of_fit? hfit
          refine ⟨o, by rw [Occurrence.line, hrest], hsurrounds, hsame, ?_, Nat.le_refl _⟩
          rw [← hrest, o.take_drop_rest]
          rfl
        · obtain ⟨o, hline, hsurrounds, hsame, hhit, hstart⟩ := hnext h
          exact ⟨o, hline, hsurrounds, hsame, hhit, by omega⟩
      · obtain ⟨o, hline, hsurrounds, hsame, hhit, hstart⟩ := hnext h
        exact ⟨o, hline, hsurrounds, hsame, hhit, by omega⟩
    · rw [hitsFrom] at h
      obtain ⟨o, hline, hsurrounds, hsame, hhit, hstart⟩ := hnext h
      exact ⟨o, hline, hsurrounds, hsame, hhit, by omega⟩

/-- **What stands in the line is listed or covered.** An occurrence that starts where the list looks
next is listed, as the sign fits there; one that starts further on is found later, unless the hit
that is listed now reaches over its start. -/
theorem exists_mem_hitsFrom {sign : Sign} (hproper : sign.isProper) {query cs : List Char}
    {o : Occurrence} (hsurrounds : sign.Surrounds o) (hsame : SameLetters query o.name)
    (front : List Char) (skip : Nat) (hline : o.line = front ++ cs)
    (hstart : front.length + skip ≤ o.start) :
    ∃ hit ∈ hitsFrom sign query front.length skip front.getLast? cs,
      hit.start ≤ o.start ∧ o.start < hit.stop := by
  induction cs generalizing front skip with
  | nil =>
    have hlength := congrArg List.length hline
    have hpos := hsurrounds.size_pos
    simp only [Occurrence.line, Occurrence.rest, Occurrence.size, Occurrence.start,
      List.length_append, List.append_nil] at hlength hpos hstart
    omega
  | cons c cs ih =>
    have hnext (skip : Nat) (hstart : front.length + 1 + skip ≤ o.start) :
        ∃ hit ∈ hitsFrom sign query (front.length + 1) skip (some c) cs,
          hit.start ≤ o.start ∧ o.start < hit.stop := by
      simpa using ih (front ++ [c]) skip (by simpa using hline) (by simpa using hstart)
    rcases skip with _ | skip
    · rw [hitsFrom]
      split
      · next fit hfit =>
        obtain ⟨p, -, -, hfits, -, rfl⟩ := Sign.exists_occurrence_of_fit? hfit
        have hpos : 0 < p.fit.size := hfits.size_pos
        -- The hit that starts here covers the occurrence, or the occurrence starts behind it.
        by_cases hcovered : o.start < front.length + p.fit.size
        · exact ⟨_, List.mem_cons_self, hstart, hcovered⟩
        · obtain ⟨hit, hmem, hplace⟩ := hnext (p.fit.size - 1) (by omega)
          exact ⟨hit, List.mem_cons_of_mem _ hmem, hplace⟩
      · next hnone =>
        -- Nothing fits here, so the occurrence starts further on.
        refine hnext 0 (Nat.lt_of_le_of_ne hstart fun heq => ?_)
        obtain ⟨rfl, hrest⟩ := List.append_inj hline heq.symm
        obtain ⟨fit, hfit⟩ := Sign.exists_fit?_eq_some hproper hsurrounds hsame
        rw [hrest, hnone] at hfit
        simp at hfit
    · rw [hitsFrom]
      exact hnext skip (by omega)

/-- The occurrences that are listed do not overlap, and come from left to right. -/
theorem pairwise_hitsFrom (sign : Sign) (query front cs : List Char) (skip : Nat) :
    (hitsFrom sign query front.length skip front.getLast? cs).Pairwise
      fun hit other => hit.stop ≤ other.start := by
  induction cs generalizing front skip with
  | nil => exact .nil
  | cons c cs ih =>
    have hnext (skip : Nat) : (hitsFrom sign query (front.length + 1) skip (some c) cs).Pairwise
        fun hit other => hit.stop ≤ other.start := by
      simpa using ih (front ++ [c]) skip
    rcases skip with _ | skip
    · rw [hitsFrom]
      split
      · next fit hfit =>
        obtain ⟨p, -, -, hfits, -, rfl⟩ := Sign.exists_occurrence_of_fit? hfit
        have hpos : 0 < p.fit.size := hfits.size_pos
        refine List.pairwise_cons.2 ⟨fun other hother => ?_, hnext _⟩
        obtain ⟨o, -, -, -, rfl, hstart⟩ := exists_occurrence_of_mem_hitsFrom (front ++ [c])
          (p.fit.size - 1) (by simpa using hother)
        rw [List.length_append, List.length_singleton] at hstart
        change front.length + p.fit.size ≤ o.start
        omega
      · exact hnext 0
    · exact hnext skip

/-- **What is listed stands in the line**, and agrees with the query letter for letter. -/
theorem exists_occurrence_of_mem_hits {shape : Shape} {query line : String} {hit : Hit}
    (h : hit ∈ shape.hits query line) :
    ∃ o : Occurrence, o.line = line.toList ∧ shape.sign.Surrounds o ∧
      SameLetters query.toList o.name ∧ o.hit = hit := by
  obtain ⟨o, hline, hsurrounds, hsame, hhit, -⟩ :=
    exists_occurrence_of_mem_hitsFrom [] 0 h
  exact ⟨o, hline, hsurrounds, hsame, hhit⟩

/-- **What stands in the line is listed**, or it starts inside of what is: the list goes on behind
each of its hits, so that no two of them overlap. -/
theorem exists_mem_hits {shape : Shape} {query line : String} {o : Occurrence}
    (hline : o.line = line.toList) (hsurrounds : shape.sign.Surrounds o)
    (hsame : SameLetters query.toList o.name) :
    ∃ hit ∈ shape.hits query line, hit.start ≤ o.start ∧ o.start < hit.stop :=
  exists_mem_hitsFrom shape.isProper_sign hsurrounds hsame [] 0 hline (Nat.zero_le _)

/-- The hits of a shape in a line do not overlap, and come from left to right. -/
theorem pairwise_hits (shape : Shape) (query line : String) :
    (shape.hits query line).Pairwise fun hit other => hit.stop ≤ other.start :=
  pairwise_hitsFrom shape.sign query.toList [] line.toList 0

/-- The name of an occurrence that is listed is a part of the line, and it agrees with the query
letter for letter up to case. -/
theorem exists_of_mem_hits {shape : Shape} {query line : String} {hit : Hit}
    (h : hit ∈ shape.hits query line) :
    ∃ front back, line.toList = front ++ hit.name ++ back ∧
      SameLetters query.toList hit.name := by
  obtain ⟨o, hline, -, hsame, rfl⟩ := exists_occurrence_of_mem_hits h
  refine ⟨o.front ++ o.lead, o.tail ++ o.back, ?_, hsame⟩
  rw [← hline, Occurrence.line, Occurrence.rest]
  simp [Occurrence.hit]

/-- A line declares a query if a shape hits it somewhere, in the query's own spelling where case
matters. -/
theorem declares_iff {line query : String} {caseSensitive : Bool} :
    declares line query caseSensitive ↔
      ∃ shape : Shape, ∃ hit ∈ shape.hits query line,
        caseSensitive = true → hit.name = query.toList := by
  unfold declares
  have hall (shape : Shape) : shape ∈ all := by cases shape <;> decide
  simp only [List.any_eq_true, Bool.or_eq_true, Bool.not_eq_true', beq_iff_eq]
  constructor
  · rintro ⟨shape, -, hit, hhit, hcase⟩
    exact ⟨shape, hit, hhit, fun h => hcase.resolve_left (by simp [h])⟩
  · rintro ⟨shape, hit, hhit, hcase⟩
    refine ⟨shape, hall shape, hit, hhit, ?_⟩
    cases caseSensitive with
    | false => exact .inl rfl
    | true => exact .inr (hcase rfl)

/-- What declares a name in its own spelling declares it in some. -/
theorem declares_of_caseSensitive {line query : String} (h : declares line query true) :
    declares line query false := by
  obtain ⟨shape, hit, hhit, -⟩ := declares_iff.1 h
  exact declares_iff.2 ⟨shape, hit, hhit, nofun⟩

end Shape
end DeclSearch
