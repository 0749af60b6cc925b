/-
# Line feeds in every encoding

In every encoding of source code a line feed is a line feed and nothing else is one, so
reading octets in another encoding moves nothing to another line (`within_recode?`).  This is
so for what UTF-8 makes of a character (`notMem_octets_utf8EncodeChar`), and for the code pages
it is a property of their tables, which are looked through once (`notMem_letters`).
-/

import DeclSearch.Proofs.Cursors
import DeclSearch.Proofs.Decoding
import DeclSearch.Python.Encoding

namespace DeclSearch
namespace Python

variable {n k : Nat}

/-- An empty text is on any lines. -/
theorem Cursor.within_nil (hk : 1 ≤ k) : Cursor.Within n ⟨⟨k, 0⟩, []⟩ :=
  ⟨hk, fun before ch behind hsplit => by simp at hsplit⟩

/-- A line feed in front of a text puts everything one line further. -/
theorem Cursor.Within.feed {cs : List Char} (h : Cursor.Within n ⟨⟨k + 1, 0⟩, cs⟩) (hk : 1 ≤ k) :
    Cursor.Within n ⟨⟨k, 0⟩, '\n' :: cs⟩ := by
  refine ⟨hk, fun before ch behind hsplit hch => ?_⟩
  rcases before with _ | ⟨c, before⟩
  · exact absurd (List.head_eq_of_cons_eq hsplit).symm hch
  · obtain ⟨rfl, hcs⟩ := List.cons_eq_cons.1 hsplit
    have hle := h.le before ch behind hcs hch
    rw [List.count_cons_self]
    dsimp only at hle ⊢
    omega

/-- Any other character in front of a text puts nothing further. -/
theorem Cursor.Within.cons {cs : List Char} (h : Cursor.Within n ⟨⟨k, 0⟩, cs⟩) (hk : k ≤ n)
    {c : Char} (hc : c ≠ '\n') : Cursor.Within n ⟨⟨k, 0⟩, c :: cs⟩ := by
  refine ⟨h.one_le, fun before ch behind hsplit hch => ?_⟩
  rcases before with _ | ⟨c', before⟩
  · exact hk
  · obtain ⟨rfl, hcs⟩ := List.cons_eq_cons.1 hsplit
    rw [List.count_cons_of_ne hc]
    exact h.le before ch behind hcs hch

/-- Characters without a break in front of a text leave it on its lines. -/
theorem Cursor.Within.append {cs line : List Char} (h : Cursor.Within n ⟨⟨k, 0⟩, cs⟩) (hk : k ≤ n)
    (hline : '\n' ∉ line) : Cursor.Within n ⟨⟨k, 0⟩, line ++ cs⟩ := by
  induction line with
  | nil => exact h
  | cons c line ih =>
    exact (ih (List.not_mem_of_not_mem_cons hline)).cons hk (List.ne_of_not_mem_cons hline).symm

/-- Everything that is shown by other characters stays on its line if the line feeds do. -/
theorem within_flatMap {f : Char → List Char} (hfeed : f '\n' = ['\n'])
    (hother : ∀ c, c ≠ '\n' → '\n' ∉ f c) {cs : List Char} (h : Cursor.Within n ⟨⟨k, 0⟩, cs⟩) :
    Cursor.Within n ⟨⟨k, 0⟩, cs.flatMap f⟩ := by
  induction cs generalizing k with
  | nil => exact h
  | cons c cs ih =>
    rw [List.flatMap_cons]
    by_cases hc : c = '\n'
    · subst hc
      rw [hfeed]
      exact (ih (h.newline [] rfl)).feed h.one_le
    · refine (ih (h.pass [c] rfl h.one_le (Nat.le_add_right _ _))).append ?_ (hother c hc)
      exact (h.place rfl hc).2

/-- The octets of a character other than a line feed. -/
theorem notMem_octets_utf8EncodeChar {c : Char} (hc : c ≠ '\n') :
    '\n' ∉ Text.octetsOf (String.utf8EncodeChar c) := by
  intro hmem
  obtain ⟨b, hb, hfeed⟩ := List.mem_map.1 hmem
  have hten : b.toNat = 10 := by rw [← Text.toNat_octet, hfeed]; rfl
  unfold String.utf8EncodeChar at hb
  dsimp only at hb
  split at hb
  · obtain rfl := List.mem_singleton.1 hb
    have hval : c.val.toNat = 10 := by
      rw [UInt8.toNat_ofNat'] at hten
      omega
    exact hc (Char.ext (UInt32.toNat_inj.1 hval))
  · -- the bytes of a longer character are all above 127
    split at hb
    · simp only [List.mem_cons, List.not_mem_nil, or_false] at hb
      rcases hb with rfl | rfl <;> rw [UInt8.toNat_ofNat'] at hten <;> omega
    split at hb
    · simp only [List.mem_cons, List.not_mem_nil, or_false] at hb
      rcases hb with rfl | rfl | rfl <;> rw [UInt8.toNat_ofNat'] at hten <;> omega
    · simp only [List.mem_cons, List.not_mem_nil, or_false] at hb
      rcases hb with rfl | rfl | rfl | rfl <;> rw [UInt8.toNat_ofNat'] at hten <;> omega

/-- Encoding a text leaves it on its lines, since a break is one octet. -/
theorem within_octetsOfChars {cs : List Char} (h : Cursor.Within n ⟨⟨k, 0⟩, cs⟩) :
    Cursor.Within n ⟨⟨k, 0⟩, Text.octetsOfChars cs⟩ := by
  have hflat := within_flatMap (f := fun c => Text.octetsOf (String.utf8EncodeChar c)) rfl
    (fun _ => notMem_octets_utf8EncodeChar) h
  rw [Text.octetsOfChars, Text.Utf8.encode, Text.octetsOf, List.map_flatMap]
  exact hflat

/-- The text of a literal. -/
theorem notMem_ofList_cons {l : List Char} {rest : List String} (h : l.all (· ≠ '\n') = true)
    (hrest : ∀ s ∈ rest, '\n' ∉ s.toList) : ∀ s ∈ String.ofList l :: rest, '\n' ∉ s.toList := by
  refine List.forall_mem_cons.2 ⟨fun hmem => ?_, hrest⟩
  rw [String.toList_ofList] at hmem
  simpa using List.all_eq_true.1 h _ hmem

/-- The letters of a code page. -/
theorem notMem_join_cons {names parts : List String} {first : Nat} {rest : List Text.CodePage}
    (h : ∀ s ∈ parts, '\n' ∉ s.toList) (hrest : ∀ page ∈ rest, '\n' ∉ page.letters.toList) :
    ∀ page ∈ Text.CodePage.mk names first (String.join parts) :: rest,
      '\n' ∉ page.letters.toList := by
  refine List.forall_mem_cons.2 ⟨fun hmem => ?_, hrest⟩
  obtain ⟨s, hs, hmem⟩ := List.mem_flatMap.1 (String.toList_join ▸ hmem)
  exact h s hs hmem

set_option maxRecDepth 4000 in
/-- **No code page has a line feed among its letters.** -/
theorem notMem_letters : ∀ page ∈ Text.codePages, '\n' ∉ page.letters.toList := by
  unfold Text.codePages
  -- The parts of the letters are literals, which are compared without being joined.
  repeat' refine notMem_join_cons ?_ ?_
  all_goals repeat' refine notMem_ofList_cons ?_ ?_
  all_goals first | exact List.forall_mem_nil _ | decide +kernel

/-- No code page changes a line feed. -/
theorem lt_first : ∀ page ∈ Text.codePages, 10 < page.first := by decide +kernel

/-- In a code page only a line feed is read as one. -/
theorem eq_feed_iff_of_char? {first : Nat} {letters : Array Char} (hfirst : 10 < first)
    (hletters : '\n' ∉ letters) (octet c : Char)
    (h : Text.CodePage.char? first letters octet = some c) : octet = '\n' ↔ c = '\n' := by
  unfold Text.CodePage.char? at h
  split at h
  · rw [Option.some.inj h]
  · next hge =>
    refine ⟨?_, ?_⟩
    · rintro rfl
      exact absurd hfirst hge
    · rintro rfl
      exact absurd (Array.mem_of_getElem? (Option.filter_eq_some_iff.1 h).1) hletters

/-- Octets that are read one by one stay on their lines if the line feeds do. -/
theorem within_mapM {f : Char → Option Char}
    (hf : ∀ octet c, f octet = some c → (octet = '\n' ↔ c = '\n')) {octets cs : List Char}
    (h : octets.mapM f = some cs) (hoctets : Cursor.Within n ⟨⟨k, 0⟩, octets⟩) :
    Cursor.Within n ⟨⟨k, 0⟩, cs⟩ := by
  induction octets generalizing cs k with
  | nil =>
    obtain rfl := Option.some.inj h
    exact hoctets
  | cons octet octets ih =>
    rw [List.mapM_cons] at h
    obtain ⟨c, hc, h⟩ := Option.bind_eq_some_iff.1 h
    obtain ⟨cs, hcs, h⟩ := Option.bind_eq_some_iff.1 h
    obtain rfl := Option.some.inj h
    by_cases hfeed : c = '\n'
    · obtain rfl := (hf octet c hc).2 hfeed
      subst hfeed
      exact (ih hcs (hoctets.newline [] rfl)).feed hoctets.one_le
    · have hne : octet ≠ '\n' := fun h => hfeed ((hf octet c hc).1 h)
      have hrest := hoctets.pass [octet] rfl hoctets.one_le (Nat.le_add_right _ _)
      exact (ih hcs hrest).cons (hoctets.place rfl hne).2 hfeed

/-- **Another encoding moves nothing to another line.** In every encoding that is known the octet of
a line feed stands for one, and no other octet does. -/
theorem within_recode? {encoding : String} {octets cs : List Char}
    (h : Encoding.recode? encoding octets = some cs)
    (hoctets : Cursor.Within n ⟨⟨k, 0⟩, octets⟩) : Cursor.Within n ⟨⟨k, 0⟩, cs⟩ := by
  unfold Encoding.recode? at h
  dsimp only at h
  split at h
  · -- UTF-8 itself
    obtain ⟨_, -, rfl⟩ := Option.map_eq_some_iff.1 h
    exact hoctets
  split at h
  · -- Latin-1, of which every octet is a letter
    obtain rfl := Option.some.inj h
    exact within_octetsOfChars hoctets
  split at h
  · -- an encoding of which only the ASCII half is taken
    split at h
    · exact nomatch h
    · obtain rfl := Option.some.inj h
      exact hoctets
  · -- a code page, which has the line feed at its place and nowhere else
    obtain ⟨page, hpage, h⟩ := Option.bind_eq_some_iff.1 h
    obtain ⟨chars, hchars, h⟩ := Option.bind_eq_some_iff.1 h
    obtain rfl := Option.some.inj h
    have hmem := List.mem_of_find?_eq_some hpage
    have hletters : '\n' ∉ page.letters.toList.toArray := by simpa using notMem_letters page hmem
    have hread := eq_feed_iff_of_char? (lt_first page hmem) hletters
    exact within_octetsOfChars (within_mapM hread hchars hoctets)

end Python
end DeclSearch
