/-
# The normal form of identifiers

The normal form of an identifier is a name that a dotted name may have for a part: it is not empty
and holds no dot (`IsComponent`).  It may be longer than the identifier, but it is always shorter
than twice the octets that write the identifier (`normalForm_of_isIdentifier`).

All of this is decided by the decompositions.  A few characters do stand for dots or for many
characters, and none of these may be a part of an identifier (`isTame_of_mem_decompositions`).
Reordering moves codes about, and composition takes two codes away for each that it puts in.
-/

import DeclSearch.Proofs.EncodedSizes
import DeclSearch.Text.Identifier
import DeclSearch.Text.Normal

namespace DeclSearch
namespace Text

namespace Normal

/-- Whether a character may stand somewhere in an identifier. -/
def isIdentifierLetter (c : Char) : Bool := isIdentifierStart c || isIdentifierPart c

/-- The code of a dot. -/
def dotCode : Nat := 46

/-- Whether codes may take the place of a character in a name. -/
def isTame (c : Char) (codes : List Nat) : Bool :=
  !codes.isEmpty && !codes.contains dotCode &&
    (decide (codes.length < 2) || decide (codes.length < 2 * c.utf8Size))

/-- Codes may take the place of a character if there are some, no dot among them, and fewer than
twice the octets of the character. -/
theorem isTame_iff {c : Char} {codes : List Nat} :
    isTame c codes ↔ codes ≠ [] ∧ dotCode ∉ codes ∧ codes.length < 2 * c.utf8Size := by
  have hsize : 2 ≤ 2 * c.utf8Size := Nat.mul_le_mul_left 2 c.utf8Size_pos
  simp only [isTame, Bool.and_eq_true, Bool.or_eq_true, Bool.not_eq_true',
    List.isEmpty_eq_false_iff, List.contains_eq_mem, decide_eq_true_eq, decide_eq_false_iff_not,
    and_assoc]
  refine and_congr_right fun _ => and_congr_right fun _ => ⟨?_, .inr⟩
  rintro (hlength | hlength)
  · omega
  · exact hlength

/-- **The table.**  What stands for a character that may be a part of an identifier may take its
place in a name. -/
theorem isTame_of_mem_decompositions : ∀ e ∈ decompositions,
    isTame (Char.ofNat e.1) e.2 ∨ isIdentifierLetter (Char.ofNat e.1) = false := by
  have hall : (decompositions.all fun e =>
      isTame (Char.ofNat e.1) e.2 || !isIdentifierLetter (Char.ofNat e.1)) = true := by
    decide +kernel
  simpa using hall

/-- No two codes are composed to a dot. -/
theorem dotCode_notMem_compositions : ∀ e ∈ compositions, e.2 ≠ dotCode := by
  decide +kernel

/-- A dot is no letter of an identifier. -/
theorem ne_dot_of_isIdentifierLetter {c : Char} (h : isIdentifierLetter c) : c.toNat ≠ dotCode := by
  intro hdot
  obtain rfl : c = '.' := Char.toNat_inj.1 hdot
  exact absurd h (by decide)

/-- A Hangul syllable stands for two or three letters. -/
theorem isTame_hangulParts {c : Char} (h : 0xAC00 ≤ c.toNat ∧ c.toNat ≤ 0xD7A3) :
    isTame c (hangulParts c.toNat) := by
  have hsize : c.utf8Size = 3 := by
    rw [utf8Size_eq_ite, if_neg (by omega), if_neg (by omega), if_pos (by omega)]
  rw [isTame_iff, hsize]
  unfold hangulParts dotCode
  dsimp only
  split <;> simp <;> omega

/-- The decomposition of a character that may be a part of an identifier. -/
theorem isTame_decompose {c : Char} (h : isIdentifierLetter c) : isTame c (decompose c.toNat) := by
  unfold decompose
  split
  · next hhangul => exact isTame_hangulParts hhangul
  · rcases hlookup : decompositions.lookup c.toNat with _ | codes
    · have hsize := c.utf8Size_pos
      rw [Option.getD_none, isTame_iff, List.mem_singleton, List.length_singleton]
      exact ⟨List.cons_ne_nil _ _, (ne_dot_of_isIdentifierLetter h).symm, by omega⟩
    · obtain ⟨front, back, hsplit, -⟩ := List.lookup_eq_some_iff.1 hlookup
      have hmem : (c.toNat, codes) ∈ decompositions := by simp [hsplit]
      have htame := isTame_of_mem_decompositions _ hmem
      rw [Char.ofNat_toNat, h] at htame
      exact htame.resolve_right Bool.true_eq_false.mp

/-- Placing a mark puts it somewhere among the codes. -/
theorem placeMark_perm (n : Nat) (codes : List Nat) : (placeMark n codes).Perm (n :: codes) := by
  induction codes with
  | nil => exact .refl _
  | cons m rest ih =>
    rw [placeMark]
    split
    · exact (ih.cons m).trans (.swap n m rest)
    · exact .refl _

/-- Reordering keeps all codes. -/
theorem reorder_perm (codes : List Nat) : (reorder codes).Perm codes := by
  have hfoldl (done : List Nat) :
      (codes.foldl (fun done n => placeMark n done) done).Perm (codes.reverse ++ done) := by
    induction codes generalizing done with
    | nil => exact .refl _
    | cons n codes ih =>
      rw [List.foldl_cons, List.reverse_cons, List.append_assoc, List.singleton_append]
      exact (ih _).trans ((placeMark_perm n done).append_left _)
  have hdone := hfoldl []
  rw [List.append_nil] at hdone
  exact (List.reverse_perm _).trans (hdone.trans (List.reverse_perm codes))

/-- No two codes form a dot. -/
theorem ne_dot_of_composePair? {a b whole : Nat} (h : composePair? a b = some whole) :
    whole ≠ dotCode := by
  unfold composePair? at h
  split at h
  · have hwhole := Option.some.inj h
    unfold dotCode
    omega
  split at h
  · have hwhole := Option.some.inj h
    unfold dotCode
    omega
  · obtain ⟨front, back, hsplit, -⟩ := List.lookup_eq_some_iff.1 h
    exact dotCode_notMem_compositions ((a, b), whole) (by simp [hsplit])

/-- One step of composition: the code comes in front of the others, or it forms a new one with the
starter. -/
theorem Composer.read_step (c : Composer) (n : Nat) :
    (c.step n).read = n :: c.read ∨
      ∃ s whole, c.starter = some s ∧ composePair? s n = some whole ∧
        (c.step n).read = c.marks ++ whole :: c.before := by
  obtain ⟨before, starter, marks⟩ := c
  have hkeep : Composer.read (if combining n = 0 then ⟨Composer.read ⟨before, starter, marks⟩,
      some n, []⟩ else ⟨before, starter, n :: marks⟩) =
        n :: Composer.read ⟨before, starter, marks⟩ := by
    split <;> rfl
  rcases starter with _ | s
  · exact .inl hkeep
  · unfold step
    dsimp only
    rcases hpair : composePair? s n with _ | whole
    · rw [ite_self]
      exact .inl hkeep
    · refine iteInduction (motive := fun after : Composer => after.read = n :: _ ∨
          ∃ s' whole', some s = some s' ∧ composePair? s' n = some whole' ∧
            after.read = marks ++ whole' :: before)
        (fun _ => .inl hkeep) fun _ => .inr ⟨s, whole, rfl, hpair, ?_⟩
      simp [read]

/-- What composition keeps of the codes it reads: there are some, no dot, and at most as many. -/
structure Composer.Tame (c : Composer) (k : Nat) : Prop where
  notMem : dotCode ∉ c.read
  pos : 0 < k → c.read ≠ []
  length_le : c.read.length ≤ k

/-- One code more keeps a composer tame, unless it is a dot. -/
theorem Composer.Tame.step {c : Composer} {k n : Nat} (h : c.Tame k) (hn : n ≠ dotCode) :
    (c.step n).Tame (k + 1) := by
  have hlength := h.length_le
  rcases c.read_step n with hread | ⟨s, whole, hs, hwhole, hread⟩
  · refine ⟨?_, fun _ => ?_, ?_⟩
    · rw [hread, List.mem_cons, not_or]
      exact ⟨hn.symm, h.notMem⟩
    · exact hread ▸ List.cons_ne_nil _ _
    · rw [hread, List.length_cons]
      omega
  · have hnotMem := h.notMem
    unfold read at hnotMem hlength
    rw [hs] at hnotMem hlength
    simp only [Option.toList_some, List.mem_append, List.mem_singleton, not_or] at hnotMem
    simp only [Option.toList_some, List.length_append, List.length_singleton] at hlength
    refine ⟨?_, fun _ => ?_, ?_⟩
    · rw [hread, List.mem_append, List.mem_cons, not_or, not_or]
      exact ⟨hnotMem.1.1, (ne_dot_of_composePair? hwhole).symm, hnotMem.2⟩
    · rw [hread]
      simp
    · rw [hread, List.length_append, List.length_cons]
      omega

/-- Any codes keep a composer tame, unless there is a dot among them. -/
theorem Composer.Tame.foldl {c : Composer} {k : Nat} (h : c.Tame k) {codes : List Nat}
    (hcodes : dotCode ∉ codes) : (codes.foldl Composer.step c).Tame (k + codes.length) := by
  induction codes generalizing c k with
  | nil => exact h
  | cons n codes ih =>
    obtain ⟨hn, hcodes⟩ := not_or.1 (List.mem_cons.not.1 hcodes)
    rw [List.foldl_cons, List.length_cons, Nat.add_comm codes.length, ← Nat.add_assoc]
    exact ih (h.step (Ne.symm hn)) hcodes

/-- Composition leaves some of the codes, no dot, and at most as many as there were. -/
theorem compose_tame {codes : List Nat} (hcodes : dotCode ∉ codes) (hne : codes ≠ []) :
    compose codes ≠ [] ∧ dotCode ∉ compose codes ∧ (compose codes).length ≤ codes.length := by
  have hstart : Composer.Tame ⟨[], none, []⟩ 0 :=
    ⟨List.not_mem_nil, fun h => absurd h (Nat.lt_irrefl 0), Nat.le_refl 0⟩
  obtain ⟨hnotMem, hpos, hlength⟩ := hstart.foldl hcodes
  rw [Nat.zero_add] at hpos hlength
  unfold compose
  refine ⟨?_, ?_, ?_⟩
  · exact List.reverse_eq_nil_iff.not.2 (hpos (List.length_pos_iff.2 hne))
  · exact List.mem_reverse.not.2 hnotMem
  · rwa [List.length_reverse]

/-- The decompositions of some characters that may be parts of an identifier. -/
theorem flatMap_decompose_tame {cs : List Char} (h : ∀ c ∈ cs, isIdentifierLetter c)
    (hne : cs ≠ []) : (cs.map Char.toNat).flatMap decompose ≠ [] ∧
      dotCode ∉ (cs.map Char.toNat).flatMap decompose ∧
      ((cs.map Char.toNat).flatMap decompose).length < 2 * (cs.map Char.utf8Size).sum := by
  have hone {c : Char} (hc : c ∈ cs) := isTame_iff.1 (isTame_decompose (h c hc))
  refine ⟨?_, ?_, ?_⟩
  · obtain ⟨c, hc⟩ := List.exists_mem_of_ne_nil cs hne
    intro hnil
    exact (hone hc).1 (List.flatMap_eq_nil_iff.1 hnil _ (List.mem_map_of_mem hc))
  · simp only [List.mem_flatMap, List.mem_map, not_exists, not_and]
    rintro _ ⟨c, hc, rfl⟩
    exact (hone hc).2.1
  · clear h
    induction cs with
    | nil => exact absurd rfl hne
    | cons c rest ih =>
      have hfirst := (hone List.mem_cons_self).2.2
      rw [List.map_cons, List.flatMap_cons, List.length_append, List.map_cons, List.sum_cons]
      by_cases hrest : rest = []
      · subst hrest
        simpa using hfirst
      · have := ih hrest fun hc => hone (List.mem_cons_of_mem _ hc)
        omega

end Normal

open Text.Normal

/-- Only the code of a dot gives a dot. -/
theorem eq_dotCode_of_ofNat {n : Nat} (h : Char.ofNat n = '.') : n = dotCode := by
  by_cases hn : n.isValidChar
  · rw [Char.ofNat, dif_pos hn] at h
    exact congrArg Char.toNat h
  · rw [Char.ofNat, dif_neg hn] at h
    exact absurd h (by decide)

/-- The characters of an identifier may stand in one. -/
theorem letters_of_isIdentifier {cs : List Char} (h : isIdentifier cs) :
    cs ≠ [] ∧ ∀ c ∈ cs, isIdentifierLetter c := by
  rcases cs with _ | ⟨first, rest⟩
  · exact nomatch h
  · obtain ⟨hfirst, hrest⟩ := Bool.and_eq_true_iff.1 h
    refine ⟨List.cons_ne_nil first rest, List.forall_mem_cons.2 ⟨?_, fun c hc => ?_⟩⟩
    · exact Bool.or_eq_true_iff.2 (.inl hfirst)
    · exact Bool.or_eq_true_iff.2 (.inr (List.all_eq_true.1 hrest c hc))

/-- A text in ASCII is its own normal form. -/
theorem normalForm_of_ascii {cs : List Char} (h : ∀ c ∈ cs, c.toNat < 128) :
    normalForm (String.ofList cs) = String.ofList cs := by
  unfold normalForm
  rw [if_pos (by simpa using h)]

/-- A text that may be a part of a dotted name. -/
structure IsComponent (s : String) : Prop where
  ne_empty : s ≠ ""
  dot_notMem : '.' ∉ s.toList

/-- **The normal form of an identifier** is a part for a dotted name, and shorter than twice the
octets of the identifier. -/
theorem normalForm_of_isIdentifier {cs : List Char} (h : isIdentifier cs) :
    IsComponent (normalForm (String.ofList cs)) ∧
      (normalForm (String.ofList cs)).length < 2 * (cs.map Char.utf8Size).sum := by
  obtain ⟨hne, hletters⟩ := letters_of_isIdentifier h
  unfold normalForm
  dsimp only
  rw [String.toList_ofList]
  split
  · -- A text in ASCII stays as it is.
    have hone : ∀ size ∈ cs.map Char.utf8Size, 1 ≤ size := by
      simpa using fun c _ => c.utf8Size_pos
    have hsize := List.length_le_sum_of_one_le _ hone
    have hlength := List.length_pos_iff.2 hne
    refine ⟨⟨?_, ?_⟩, ?_⟩
    · simpa using hne
    · rw [String.toList_ofList]
      exact fun hdot => ne_dot_of_isIdentifierLetter (hletters _ hdot) rfl
    · rw [List.length_map] at hsize
      rw [String.length_ofList]
      omega
  · obtain ⟨hsome, hnotMem, hlength⟩ := flatMap_decompose_tame hletters hne
    have hperm := reorder_perm ((cs.map Char.toNat).flatMap decompose)
    obtain ⟨hsome, hnotMem, hle⟩ := compose_tame (hperm.mem_iff.not.2 hnotMem)
      fun hnil => hsome (List.nil_perm.1 (hnil ▸ hperm))
    rw [hperm.length_eq] at hle
    refine ⟨⟨?_, ?_⟩, ?_⟩
    · simpa using hsome
    · rw [String.toList_ofList, List.mem_map]
      rintro ⟨n, hn, hdot⟩
      exact hnotMem (eq_dotCode_of_ofNat hdot ▸ hn)
    · rw [String.length_ofList, List.length_map]
      omega

end Text
end DeclSearch
