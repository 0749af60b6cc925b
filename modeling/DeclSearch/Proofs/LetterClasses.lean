/-
# What agrees up to case is of the same class

Letters agree up to case with letters.  A blank agrees with itself alone (`Text.eq_of_sameLetter`),
and what agrees with a small ASCII letter is a word character (`Text.isWord_of_sameLetter`).  Both
are read off the tables: a character is its own lower case or lies in one of the runs that move
(`Text.lowerChar_cases`), and the runs are looked through once for each class.
-/

import DeclSearch.Text.Blank
import DeclSearch.Text.Letter
import DeclSearch.Text.Word
import Mathlib.Data.List.Basic

namespace DeclSearch
namespace Text

/-- The bounds of the blanks. -/
def blankBounds : List (Nat × Nat) := [
  (9, 13), (28, 32), (0x85, 0x85), (0xA0, 0xA0), (0x1680, 0x1680), (0x2000, 0x200A),
  (0x2028, 0x2029), (0x202F, 0x202F), (0x205F, 0x205F), (0x3000, 0x3000)]

/-- A blank character has its code in one of few ranges. -/
theorem exists_bounds_of_isBlank {c : Char} (h : isBlank c) :
    ∃ b ∈ blankBounds, b.1 ≤ c.toNat ∧ c.toNat ≤ b.2 := by
  simp only [isBlank, Bool.or_eq_true, Bool.and_eq_true, decide_eq_true_eq, beq_iff_eq] at h
  simp only [blankBounds, List.mem_cons, List.not_mem_nil, or_false, exists_eq_or_imp,
    exists_eq_left]
  omega

/-- What is found for a code comes from a run that has it, at the same distance from the run's
start. -/
theorem CaseRun.exists_of_find? {n m : Nat} {runs : List CaseRun} (h : find? n runs = some m) :
    ∃ r ∈ runs, r.first ≤ n ∧ n ≤ r.last ∧ m = r.image + (n - r.first) := by
  induction runs with
  | nil => exact nomatch h
  | cons r runs ih =>
    rw [find?] at h
    split at h
    · obtain ⟨s, hs, hrun⟩ := ih h
      exact ⟨s, List.mem_cons_of_mem _ hs, hrun⟩
    · next hin =>
      exact ⟨r, List.mem_cons_self, by omega, by omega, (Option.some.inj h).symm⟩

/-- **A character is its own lower case, or it lies in a run that moves.** -/
theorem lowerChar_cases (c : Char) :
    lowerChar c = c ∨ c.toNat = 0x130 ∧ lowerChar c = 'i' ∨
      ∃ r ∈ lowerRuns, r.first ≤ c.toNat ∧ c.toNat ≤ r.last ∧
        lowerChar c = Char.ofNat (r.image + (c.toNat - r.first)) := by
  unfold lowerChar
  dsimp only
  split
  · -- an ASCII character
    split
    · next hcapital =>
      refine .inr (.inr ⟨⟨65, 90, 1, 97⟩, by decide, hcapital.1, hcapital.2, ?_⟩)
      rw [show c.toNat + 32 = 97 + (c.toNat - 65) by omega]
    · exact .inl rfl
  · split
    · next hdotted => exact .inr (.inl ⟨hdotted, rfl⟩)
    · rcases hfind : CaseRun.find? c.toNat lowerRuns with _ | m
      · exact .inl rfl
      · obtain ⟨r, hr, hfirst, hlast, rfl⟩ := CaseRun.exists_of_find? hfind
        exact .inr (.inr ⟨r, hr, hfirst, hlast, rfl⟩)

/-- No run moves a blank, or something to a blank. -/
theorem lowerRuns_blank : ∀ r ∈ lowerRuns, ∀ b ∈ blankBounds,
    (r.last < b.1 ∨ b.2 < r.first) ∧
      (r.image + (r.last - r.first) < b.1 ∨ b.2 < r.image) := by
  decide +kernel

/-- No blank shares its capital with another character. -/
theorem families_blank : ∀ family ∈ sharedUpperFamilies, ∀ n ∈ family, ∀ b ∈ blankBounds,
    n < b.1 ∨ b.2 < n := by
  decide +kernel

/-- The character of a code has that code, or none if there is no such character. -/
theorem toNat_ofNat_cases (n : Nat) : (Char.ofNat n).toNat = n ∨ (Char.ofNat n).toNat = 0 := by
  by_cases hvalid : n.isValidChar
  · rw [Char.ofNat, dif_pos hvalid]
    exact .inl rfl
  · rw [Char.ofNat, dif_neg hvalid]
    exact .inr rfl

/-- A blank is the lower case of itself alone. -/
theorem lowerChar_eq_of_isBlank {c : Char} (h : isBlank c ∨ isBlank (lowerChar c)) :
    lowerChar c = c := by
  rcases lowerChar_cases c with hsame | ⟨hdotted, hi⟩ | ⟨r, hr, hfirst, hlast, hlower⟩
  · exact hsame
  · rcases h with h | h
    · simp [isBlank, hdotted] at h
    · rw [hi] at h
      exact absurd h (by decide)
  · rcases h with h | h
    · obtain ⟨b, hb, hlow, hhigh⟩ := exists_bounds_of_isBlank h
      have hout := (lowerRuns_blank r hr b hb).1
      omega
    · obtain ⟨b, hb, hlow, hhigh⟩ := exists_bounds_of_isBlank h
      have hout := (lowerRuns_blank r hr b hb).2
      have hpos : ∀ b ∈ blankBounds, 0 < b.1 := by decide
      have hzero := hpos b hb
      rw [hlower] at hlow hhigh
      rcases toNat_ofNat_cases (r.image + (c.toNat - r.first)) with hcode | hcode <;> omega

/-- Being one letter in two cases goes both ways. -/
theorem sameLetter_comm (a b : Char) : sameLetter a b = sameLetter b a := by
  unfold sameLetter
  simp only [Bool.and_comm, Bool.beq_comm (a := lowerChar a)]

/-- Every character is one letter with itself. -/
theorem sameLetter_self (a : Char) : sameLetter a a := by
  simp [sameLetter]

/-- **A blank agrees with itself alone.** -/
theorem eq_of_sameLetter {a b : Char} (h : sameLetter a b) (hblank : isBlank a ∨ isBlank b) :
    a = b := by
  have hself {a b : Char} (h : sameLetter a b) (ha : isBlank a) : a = b := by
    have hlower := lowerChar_eq_of_isBlank (.inl ha)
    unfold sameLetter at h
    rw [hlower, Bool.or_eq_true, beq_iff_eq] at h
    rcases h with h | h
    · rw [h] at ha ⊢
      exact lowerChar_eq_of_isBlank (.inr ha)
    · obtain ⟨family, hfamily, hboth⟩ := List.any_eq_true.1 h
      have hmem : a.toNat ∈ family := by simpa using (Bool.and_eq_true_iff.1 hboth).1
      obtain ⟨bounds, hbounds, hlow, hhigh⟩ := exists_bounds_of_isBlank ha
      have hout := families_blank family hfamily a.toNat hmem bounds hbounds
      omega
  rcases hblank with ha | hb
  · exact hself h ha
  · rw [sameLetter_comm] at h
    exact (hself h hb).symm

/-- The small letters of ASCII have the codes from 97 to 122. -/
theorem toNat_of_isLower {c : Char} (h : c.isLower) : 97 ≤ c.toNat ∧ c.toNat ≤ 122 := by
  obtain ⟨hlow, hhigh⟩ := Bool.and_eq_true_iff.1 h
  exact ⟨of_decide_eq_true hlow, of_decide_eq_true hhigh⟩

/-- No small letter of ASCII is blank. -/
theorem not_isBlank_of_isLower {c : Char} (h : c.isLower) : ¬isBlank c := by
  intro hblank
  obtain ⟨b, hb, hbounds⟩ := exists_bounds_of_isBlank hblank
  have hout : ∀ b ∈ blankBounds, b.2 < 97 ∨ 122 < b.1 := by decide
  have hcode := toNat_of_isLower h
  have := hout b hb
  omega

/-- The codes of the small ASCII letters, and of the lower cases that agree with them. -/
def smallCodes : List Nat := List.range' 97 26 ++ [0x131, 0x17F]

/-- The letters that share an upper case with a small letter of ASCII are in the list of small
codes. -/
theorem families_smallCodes : ∀ family ∈ sharedUpperFamilies, ∀ n ∈ List.range' 97 26,
    n ∈ family → ∀ m ∈ family, m ∈ smallCodes := by
  decide +kernel

/-- What moves to one of these codes is a word character. -/
theorem lowerRuns_smallCodes : ∀ r ∈ lowerRuns, ∀ m ∈ smallCodes, r.image ≤ m →
    m ≤ r.image + (r.last - r.first) → isWord (Char.ofNat (r.first + (m - r.image))) := by
  decide +kernel

/-- Whatever is lowered to one of the small codes stands in words. -/
theorem isWord_of_smallCode {c : Char} (h : (lowerChar c).toNat ∈ smallCodes) : isWord c := by
  have hword : ∀ n ∈ smallCodes, isWord (Char.ofNat n) := by decide +kernel
  rcases lowerChar_cases c with hsame | ⟨hdotted, -⟩ | ⟨r, hr, hfirst, hlast, hlower⟩
  · rw [hsame] at h
    simpa using hword c.toNat h
  · rw [← Char.ofNat_toNat c, hdotted]
    decide +kernel
  · rw [hlower] at h
    have hpos : ∀ n ∈ smallCodes, 0 < n := by decide +kernel
    have hzero := hpos _ h
    rcases toNat_ofNat_cases (r.image + (c.toNat - r.first)) with hcode | hcode
    · rw [hcode] at h
      have hmoved := lowerRuns_smallCodes r hr _ h (Nat.le_add_right _ _) (by omega)
      rwa [Nat.add_sub_cancel_left, Nat.add_sub_cancel' hfirst, Char.ofNat_toNat] at hmoved
    · omega

/-- **What agrees with a small ASCII letter is a word character.** -/
theorem isWord_of_sameLetter {a b : Char} (h : sameLetter a b) (ha : a.isLower) : isWord b := by
  have hcode : a.toNat ∈ List.range' 97 26 := by
    rw [List.mem_range'_1]
    exact ⟨(toNat_of_isLower ha).1, Nat.lt_succ_of_le (toNat_of_isLower ha).2⟩
  have hlower : lowerChar a = a := by
    rw [List.mem_range'_1] at hcode
    simp only [lowerChar]
    rw [if_pos (by omega), if_neg (by omega)]
  apply isWord_of_smallCode
  unfold sameLetter at h
  rw [hlower, Bool.or_eq_true, beq_iff_eq] at h
  rcases h with h | h
  · exact h ▸ List.mem_append_left _ hcode
  · obtain ⟨family, hfamily, hboth⟩ := List.any_eq_true.1 h
    simp only [List.contains_eq_mem, Bool.and_eq_true, decide_eq_true_eq] at hboth
    exact families_smallCodes family hfamily a.toNat hcode hboth.1 _ hboth.2

end Text
end DeclSearch
