/-
# The octets of characters

The characters that are read from octets take just these octets (`encodedSize_eq`).  A piece that
is read is counted with its own octets (`Utf8.sizeOf`), and a reader has as many of them as it has
read: whatever follows, a scalar value that is being read will take as many octets as its first byte
has announced (`Utf8.Pending.Fits`).
-/

import DeclSearch.Text.Octets
import Mathlib.Algebra.BigOperators.Group.List.Basic
import Mathlib.Algebra.GroupWithZero.Nat

namespace DeclSearch
namespace Text

/-- The octets that a character takes, by its code. -/
theorem utf8Size_eq_ite (c : Char) : c.utf8Size =
    if c.toNat ≤ 0x7F then 1
    else if c.toNat ≤ 0x7FF then 2
    else if c.toNat ≤ 0xFFFF then 3
    else 4 :=
  rfl

/-- The octets that a code takes, if there is a character for it. -/
theorem utf8Size_ofNat {n : Nat} (h : n.isValidChar) : (Char.ofNat n).utf8Size =
    if n ≤ 0x7F then 1
    else if n ≤ 0x7FF then 2
    else if n ≤ 0xFFFF then 3
    else 4 := by
  have hcode : (Char.ofNat n).toNat = n := by
    rw [Char.ofNat, dif_pos h]
    rfl
  rw [utf8Size_eq_ite, hcode]

/-- A character of ASCII takes one octet. -/
theorem utf8Size_of_one {n : Nat} (h : n < 0x80) : (Char.ofNat n).utf8Size = 1 := by
  rw [utf8Size_ofNat (.inl (by omega)), if_pos (by omega)]

/-- The next characters take two octets. -/
theorem utf8Size_of_two {n : Nat} (h : 0x80 ≤ n) (h' : n < 0x800) :
    (Char.ofNat n).utf8Size = 2 := by
  rw [utf8Size_ofNat (.inl (by omega)), if_neg (by omega), if_pos (by omega)]

/-- The others of the first plane take three octets, and surrogates are none of them. -/
theorem utf8Size_of_three {n : Nat} (h : 0x800 ≤ n) (h' : n < 0x10000)
    (hvalid : n < 0xD800 ∨ 0xDFFF < n) : (Char.ofNat n).utf8Size = 3 := by
  rw [utf8Size_ofNat (hvalid.imp_right fun h => ⟨h, by omega⟩), if_neg (by omega),
    if_neg (by omega), if_pos (by omega)]

/-- All characters behind the first plane take four octets. -/
theorem utf8Size_of_four {n : Nat} (h : 0x10000 ≤ n) (h' : n < 0x110000) :
    (Char.ofNat n).utf8Size = 4 := by
  rw [utf8Size_ofNat (.inr (by omega)), if_neg (by omega), if_neg (by omega), if_neg (by omega)]

namespace Utf8

/-- The octets of a piece. -/
def Piece.size : Piece → Nat
  | .scalar c => c.utf8Size
  | .broken bytes _ => bytes.length

/-- The octets of some pieces. -/
def sizeOf (pieces : List Piece) : Nat := (pieces.map Piece.size).sum

/-- No pieces take no octets. -/
@[simp]
theorem sizeOf_nil : sizeOf [] = 0 := rfl

/-- A piece and others take the octets of both. -/
@[simp]
theorem sizeOf_cons (p : Piece) (pieces : List Piece) :
    sizeOf (p :: pieces) = p.size + sizeOf pieces := by
  simp [sizeOf]

/-- Pieces take as many octets in any order. -/
theorem sizeOf_reverse (pieces : List Piece) : sizeOf pieces.reverse = sizeOf pieces := by
  rw [sizeOf, List.map_reverse, List.sum_reverse, sizeOf]

/-- Whether a scalar value that is being read will take as many octets as have been read and are
still needed, whatever bits follow. -/
structure Pending.Fits (p : Pending) : Prop where
  low_ge : 0x80 ≤ p.low
  needs_some : 1 ≤ p.needed
  size_eq : ∀ more k rest, p.needed = more + 1 → p.low ≤ 0x80 + k → 0x80 + k ≤ p.high →
    rest < 64 ^ more → (Char.ofNat ((p.bits * 64 + k) * 64 ^ more + rest)).utf8Size =
      p.read.length + (more + 1)

/-- The octets that a reader has read. -/
def Reader.size (r : Reader) : Nat := sizeOf r.pieces + (r.pending.elim 0 fun p => p.read.length)

/-- A reader that has found just what there was, in `n` octets. -/
structure Reader.Fits (r : Reader) (n : Nat) : Prop where
  pending : ∀ p ∈ r.pending, p.Fits
  size_eq : r.size = n

section Pending

variable {p : Pending} (h : p.Fits) {k : Nat} (hlow : p.low ≤ 0x80 + k) (hhigh : 0x80 + k ≤ p.high)

include h hlow hhigh

/-- A scalar value whose last byte is here takes the octets that were read. -/
theorem Pending.Fits.size_scalar (hneeded : p.needed ≤ 1) :
    (Char.ofNat (p.bits * 64 + k)).utf8Size = p.read.length + 1 := by
  have hone : p.needed = 1 := Nat.le_antisymm hneeded h.needs_some
  simpa using h.size_eq 0 k 0 hone hlow hhigh

/-- The pending value once one more of its bytes is read. -/
theorem Pending.Fits.next (hneeded : ¬p.needed ≤ 1) (b : UInt8) :
    Pending.Fits ⟨b :: p.read, p.needed - 1, 0x80, 0xBF, p.bits * 64 + k⟩ := by
  have hpositive : 1 ≤ p.needed - 1 := by omega
  refine ⟨Nat.le_refl _, hpositive, fun more j rest hmore _ hj hrest => ?_⟩
  dsimp only at hmore hj ⊢
  -- The bits of the next byte and those behind it are bits that may follow this one.
  have hj : j + 1 ≤ 64 := by omega
  have hbits : j * 64 ^ more + rest < 64 ^ (more + 1) :=
    calc j * 64 ^ more + rest
      _ < j * 64 ^ more + 64 ^ more := Nat.add_lt_add_left hrest _
      _ = (j + 1) * 64 ^ more := (Nat.succ_mul _ _).symm
      _ ≤ 64 * 64 ^ more := Nat.mul_le_mul_right _ hj
      _ = 64 ^ (more + 1) := (Nat.pow_succ').symm
  have hcode : ((p.bits * 64 + k) * 64 + j) * 64 ^ more + rest =
      (p.bits * 64 + k) * 64 ^ (more + 1) + (j * 64 ^ more + rest) := by
    rw [Nat.add_mul, Nat.mul_assoc _ 64, ← Nat.pow_succ', Nat.add_assoc]
  rw [hcode, h.size_eq (more + 1) k _ (by omega) hlow hhigh hbits, List.length_cons]
  omega

end Pending

/-- A choice between readers fits a number of octets if each of them does where it is chosen. -/
theorem Reader.fits_ite {c : Prop} [Decidable c] {r s : Reader} {n : Nat} (hr : c → r.Fits n)
    (hs : ¬c → s.Fits n) : (if c then r else s).Fits n := by
  split
  · exact hr ‹_›
  · exact hs ‹_›

/-- A byte that starts a scalar value of several. -/
theorem Pending.Fits.first {b : UInt8} {low high bits more : Nat} (hlow : 0x80 ≤ low)
    (hsize : ∀ n, (bits * 64 + (low - 0x80)) * 64 ^ more ≤ n →
      n < (bits * 64 + (high - 0x80) + 1) * 64 ^ more → (Char.ofNat n).utf8Size = more + 2) :
    Pending.Fits ⟨[b], more + 1, low, high, bits⟩ := by
  refine ⟨hlow, Nat.le_add_left _ _, fun more' k rest hmore hk hk' hrest => ?_⟩
  obtain rfl : more = more' := Nat.add_right_cancel hmore
  dsimp only at hk hk' ⊢
  have hfrom : bits * 64 + (low - 0x80) ≤ bits * 64 + k := by omega
  have hto : bits * 64 + k + 1 ≤ bits * 64 + (high - 0x80) + 1 := by omega
  rw [hsize, List.length_singleton, Nat.add_comm 1]
  · exact Nat.le_add_right_of_le (Nat.mul_le_mul_right _ hfrom)
  · refine Nat.lt_of_lt_of_le ?_ (Nat.mul_le_mul_right _ hto)
    rw [Nat.succ_mul]
    exact Nat.add_lt_add_left hrest _

/-- A byte that starts a piece. -/
theorem Reader.fits_start {done : List Piece} {n : Nat} (h : sizeOf done = n) (b : UInt8) :
    (start done b).Fits (n + 1) := by
  have hwait {more low high bits : Nat} (hp : Pending.Fits ⟨[b], more + 1, low, high, bits⟩) :
      Reader.Fits ⟨done, some ⟨[b], more + 1, low, high, bits⟩⟩ (n + 1) :=
    ⟨fun q hq => Option.mem_some.1 hq ▸ hp, congrArg (· + 1) h⟩
  have hpiece {p : Piece} (hp : p.size = 1) : Reader.Fits ⟨p :: done, none⟩ (n + 1) := by
    refine ⟨by simp, ?_⟩
    change sizeOf (p :: done) + 0 = n + 1
    rw [sizeOf_cons, hp]
    omega
  unfold start
  refine fits_ite (fun hb => hpiece (utf8Size_of_one hb)) fun _ => fits_ite (fun _ => hpiece rfl)
    fun _ => fits_ite (fun _ => hwait ?_) fun _ => fits_ite (fun _ => hwait ?_) fun _ =>
    fits_ite (fun _ => hwait ?_) fun _ => fits_ite (fun _ => hwait ?_) fun _ =>
    fits_ite (fun _ => hwait ?_) fun _ => fits_ite (fun _ => hwait ?_) fun _ =>
    fits_ite (fun _ => hwait ?_) fun _ => hpiece rfl
  · exact .first (by omega) fun m hm hm' => utf8Size_of_two (by omega) (by omega)
  · exact .first (by omega) fun m hm hm' =>
      utf8Size_of_three (by omega) (by omega) (by omega)
  · exact .first (by omega) fun m hm hm' =>
      utf8Size_of_three (by omega) (by omega) (by omega)
  · exact .first (by omega) fun m hm hm' =>
      utf8Size_of_three (by omega) (by omega) (by omega)
  · exact .first (by omega) fun m hm hm' => utf8Size_of_four (by omega) (by omega)
  · exact .first (by omega) fun m hm hm' => utf8Size_of_four (by omega) (by omega)
  · exact .first (by omega) fun m hm hm' => utf8Size_of_four (by omega) (by omega)

/-- **A step reads one octet more.** The octet goes on with the pending sequence and may complete
it, or it breaks the sequence off, which is then shown as one replacement of its octets, and is read
anew. -/
theorem Reader.Fits.step {r : Reader} {n : Nat} (h : r.Fits n) (b : UInt8) :
    (r.step b).Fits (n + 1) := by
  obtain ⟨pieces, pending⟩ := r
  obtain ⟨hpending, hsize⟩ := h
  rcases pending with _ | p
  · exact fits_start hsize b
  · have hp := hpending p rfl
    have hsize : sizeOf pieces + p.read.length = n := hsize
    unfold Reader.step
    dsimp only
    split
    · next hb =>
      -- The octet goes on with the sequence that is pending, which it may complete.
      have hbits : 0x80 + (b.toNat - 0x80) = b.toNat := by
        have := hp.low_ge
        omega
      have hlow : p.low ≤ 0x80 + (b.toNat - 0x80) := Nat.le_trans hb.1 (Nat.le_of_eq hbits.symm)
      have hhigh : 0x80 + (b.toNat - 0x80) ≤ p.high := Nat.le_trans (Nat.le_of_eq hbits) hb.2
      split
      · next hneeded =>
        have hscalar := hp.size_scalar hlow hhigh hneeded
        refine ⟨by simp, ?_⟩
        change sizeOf (_ :: pieces) + 0 = n + 1
        rw [sizeOf_cons, Piece.size]
        omega
      · next hneeded =>
        refine ⟨fun q hq => Option.mem_some.1 hq ▸ hp.next hlow hhigh hneeded b, ?_⟩
        change sizeOf pieces + (p.read.length + 1) = n + 1
        omega
    · -- The octet breaks the sequence off and is read anew.
      refine fits_start ?_ b
      rw [sizeOf_cons, Piece.size, List.length_reverse]
      omega

/-- The pieces of some bytes have as many octets as there are bytes. -/
theorem sizeOf_pieces (bytes : Bytes) : sizeOf (pieces bytes) = bytes.length := by
  have hfoldl {r : Reader} {n : Nat} (h : r.Fits n) :
      (bytes.foldl Reader.step r).Fits (n + bytes.length) := by
    induction bytes generalizing r n with
    | nil => exact h
    | cons b bytes ih =>
      rw [List.foldl_cons, List.length_cons, Nat.add_comm bytes.length, ← Nat.add_assoc]
      exact ih (h.step b)
  have hread := (hfoldl (r := ⟨[], none⟩) (n := 0) ⟨by simp, rfl⟩).size_eq
  rw [Nat.zero_add] at hread
  rw [← hread]
  unfold pieces Reader.finish Reader.size
  rw [sizeOf_reverse]
  rcases (bytes.foldl Reader.step ⟨[], none⟩).pending with _ | p
  · rfl
  · simp [Piece.size, Nat.add_comm]

/-- The characters that are collected from pieces take the octets of the pieces. -/
theorem sum_of_collect {pieces : List Piece} {offset : Nat} {done cs : List Char}
    (h : collect offset done pieces = .ok cs) :
    (cs.map Char.utf8Size).sum = (done.map Char.utf8Size).sum + sizeOf pieces := by
  induction pieces generalizing offset done with
  | nil =>
    obtain rfl := Except.ok.inj h
    rw [List.map_reverse, List.sum_reverse, sizeOf_nil, Nat.add_zero]
  | cons p rest ih =>
    rcases p with c | ⟨bytes, reason⟩
    · rw [ih h, List.map_cons, List.sum_cons, sizeOf_cons, Piece.size]
      omega
    · exact nomatch h

end Utf8

/-- How many octets encode some characters. -/
def encodedSize (cs : List Char) : Nat := (Utf8.encode cs).length

/-- A text takes the octets of its characters. -/
theorem encodedSize_eq_sum (cs : List Char) : encodedSize cs = (cs.map Char.utf8Size).sum := by
  simp [encodedSize, Utf8.encode, List.length_flatMap]

/-- A character and a text take the octets of both. -/
theorem encodedSize_cons (c : Char) (cs : List Char) :
    encodedSize (c :: cs) = c.utf8Size + encodedSize cs := by
  simp [encodedSize_eq_sum]

/-- A text takes at least an octet for each character. -/
theorem length_le_encodedSize (cs : List Char) : cs.length ≤ encodedSize cs := by
  induction cs with
  | nil => exact Nat.le_refl 0
  | cons c cs ih =>
    have hpos := c.utf8Size_pos
    rw [List.length_cons, encodedSize_cons]
    omega

/-- One octet is enough for a character of ASCII, and for no other. -/
theorem utf8Size_eq_one_iff (c : Char) : c.utf8Size = 1 ↔ c.toNat < 128 := by
  rw [Char.utf8Size_eq_one_iff, UInt32.le_iff_toNat_le]
  exact Nat.lt_succ_iff.symm

/-- **As many octets as characters** has a text in ASCII, and no other. -/
theorem encodedSize_eq_length_iff (cs : List Char) :
    encodedSize cs = cs.length ↔ ∀ c ∈ cs, c.toNat < 128 := by
  induction cs with
  | nil => exact iff_of_true rfl (List.forall_mem_nil _)
  | cons c cs ih =>
    have hpos := c.utf8Size_pos
    have hrest := length_le_encodedSize cs
    rw [List.forall_mem_cons, ← ih, ← utf8Size_eq_one_iff, encodedSize_cons, List.length_cons]
    omega

/-- Octets that are not high are characters of ASCII. -/
theorem forall_lt_of_not_isHigh {octets : List Char} (h : ¬ octets.any isHigh = true) :
    ∀ c ∈ octets, c.toNat < 128 := by
  simpa [isHigh] using h

/-- **Decoding.**  The characters that octets encode take just these octets. -/
theorem encodedSize_eq {octets cs : List Char} (h : charsOf? octets = some cs) :
    encodedSize cs = octets.length := by
  unfold charsOf? at h
  split at h
  · rcases hdecode : Utf8.decode (bytesOf octets) with fault | decoded
    · rw [hdecode] at h
      exact nomatch h
    · rw [hdecode] at h
      obtain rfl := Option.some.inj h
      have hsum := Utf8.sum_of_collect hdecode
      rw [encodedSize_eq_sum, hsum, List.map_nil, List.sum_nil, Nat.zero_add, Utf8.sizeOf_pieces,
        bytesOf, List.length_map]
  · next hhigh =>
    obtain rfl := Option.some.inj h
    exact (encodedSize_eq_length_iff _).2 (forall_lt_of_not_isHigh hhigh)

end Text
end DeclSearch
