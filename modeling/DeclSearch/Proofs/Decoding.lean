/-
# Decoding keeps the lines

Bytes that are no UTF-8 are shown by a mark, and a file is cut into lines after that.  Since a
broken run never swallows the byte behind it, an ASCII byte is always read as itself
(`decodeLossy_append_cons`), and no other byte ever gives a line break
(`plain_of_mem_decodeLossy`).  So decoding keeps the breaks of a text
(`keepsBreaks_decodeLossy`), and it commutes with cutting into lines (`linesOf_decodeLossy`).

A reader in the middle of a scalar value waits for bytes between two bounds, both outside
ASCII, and has read enough bits for the value to be outside ASCII as well: this is
`Pending.Sound`, which every step keeps (`sound_step`).
-/

import DeclSearch.Proofs.Rulings
import DeclSearch.Text.Octets

namespace DeclSearch
namespace Text

namespace Utf8

/-- Whether the scalar value that is being read will be outside ASCII, and its next byte. -/
structure Pending.Sound (p : Pending) : Prop where
  low_le : 0x80 ≤ p.low
  long : 2 ≤ p.bits * 64 + (p.low - 0x80)
  last : p.needed ≤ 1 → 2 ≤ p.bits

/-- Whether a reader is between two pieces or in the middle of a sound one. -/
def Reader.Sound (r : Reader) : Prop := ∀ p ∈ r.pending, p.Sound

/-- A reader that waits for nothing is sound. -/
theorem Reader.sound_of_pending_eq_none {r : Reader} (h : r.pending = none) : r.Sound :=
  fun p hp => by simp [h] at hp

/-- A byte that starts a piece does so behind all pieces. -/
theorem Reader.start_eq (done : List Piece) (b : UInt8) :
    start done b = ⟨(start [] b).pieces ++ done, (start [] b).pending⟩ := by
  have hite {c : Prop} [Decidable c] (r s : Reader) :
      (⟨(if c then r else s).pieces ++ done, (if c then r else s).pending⟩ : Reader) =
        if c then ⟨r.pieces ++ done, r.pending⟩ else ⟨s.pieces ++ done, s.pending⟩ := by
    split <;> rfl
  simp only [start, hite]
  rfl

/-- A byte is read behind all pieces. -/
theorem Reader.step_eq (r : Reader) (b : UInt8) :
    r.step b = ⟨(step ⟨[], r.pending⟩ b).pieces ++ r.pieces, (step ⟨[], r.pending⟩ b).pending⟩ := by
  unfold step
  dsimp only
  split
  · exact start_eq _ _
  · split
    · split <;> rfl
    · rw [start_eq, start_eq [_]]
      simp

/-- What one byte that is part of no line break may lead to: something, no line break, and
perhaps a sound piece to be read on. -/
structure Reader.Opens (r : Reader) : Prop where
  sound : r.Sound
  plain : ∀ x ∈ r.pieces, IsPlain x.shown
  exists_some : r.pieces ≠ [] ∨ r.pending ≠ none

/-- A choice between readers is what one byte may lead to, if each of them is where it is chosen. -/
theorem Reader.Opens.ite {c : Prop} [Decidable c] {r s : Reader} (hr : c → r.Opens)
    (hs : ¬c → s.Opens) : (if c then r else s).Opens := by
  split
  · exact hr ‹_›
  · exact hs ‹_›

/-- What is shown for broken octets is a plain character. -/
theorem isPlain_shown_broken (bytes : Bytes) (reason : Reason) :
    IsPlain (Piece.broken bytes reason).shown := by
  simp only [Piece.shown, IsPlain]
  decide

/-- One byte may lead to a sound piece that is to be read on. -/
theorem Reader.opens_pending {p : Pending} (h : p.Sound) : Reader.Opens ⟨[], some p⟩ :=
  ⟨fun _ hq => Option.mem_some.1 hq ▸ h, by simp, .inr (by simp)⟩

/-- One byte may lead to a piece that is broken. -/
theorem Reader.opens_broken (bytes : Bytes) (reason : Reason) :
    Reader.Opens ⟨[.broken bytes reason], none⟩ :=
  ⟨sound_of_pending_eq_none rfl, by simpa using isPlain_shown_broken bytes reason, .inl (by simp)⟩

/-- Only the number of a line break gives a line break. -/
theorem isPlain_ofNat {n : Nat} (hcr : n ≠ 13) (hlf : n ≠ 10) : IsPlain (Char.ofNat n) := by
  by_cases hvalid : n.isValidChar
  · rw [Char.ofNat, dif_pos hvalid]
    exact ⟨fun h => hcr (congrArg Char.toNat h), fun h => hlf (congrArg Char.toNat h)⟩
  · rw [Char.ofNat, dif_neg hvalid]
    exact ⟨by decide, by decide⟩

/-- A byte that starts a piece and is part of no line break. -/
theorem Reader.opens_start {b : UInt8} (hcr : b.toNat ≠ 13) (hlf : b.toNat ≠ 10) :
    (start [] b).Opens := by
  unfold start
  refine .ite (fun _ => ?_) fun _ => .ite (fun _ => opens_broken _ _) fun _ =>
    .ite (fun _ => ?_) fun _ => .ite (fun _ => ?_) fun _ => .ite (fun _ => ?_) fun _ =>
    .ite (fun _ => ?_) fun _ => .ite (fun _ => ?_) fun _ => .ite (fun _ => ?_) fun _ =>
    .ite (fun _ => ?_) fun _ => opens_broken _ _
  · exact ⟨sound_of_pending_eq_none rfl, by simpa [Piece.shown] using isPlain_ofNat hcr hlf,
      .inl (by simp)⟩
  · exact opens_pending ⟨by simp, by simp; omega, by simp; omega⟩
  · exact opens_pending ⟨by simp, by simp, by simp⟩
  · exact opens_pending ⟨by simp, by simp, by simp⟩
  · exact opens_pending ⟨by simp, by simp; omega, by simp⟩
  · exact opens_pending ⟨by simp, by simp, by simp⟩
  · exact opens_pending ⟨by simp, by simp; omega, by simp⟩
  · exact opens_pending ⟨by simp, by simp, by simp⟩

/-- **A step keeps the reader sound**, and without a line break in the byte it finds none. -/
theorem Reader.opens_step {p : Option Pending} (hp : ∀ q ∈ p, q.Sound) {b : UInt8}
    (hcr : b.toNat ≠ 13) (hlf : b.toNat ≠ 10) : (step ⟨[], p⟩ b).Opens := by
  rcases p with _ | q
  · exact opens_start hcr hlf
  · obtain ⟨hlow, hlong, hlast⟩ := hp q rfl
    unfold step
    dsimp only
    split
    · next hb =>
      split
      · next hneeded =>
        have hbits := hlast hneeded
        refine ⟨sound_of_pending_eq_none rfl, ?_, .inl (by simp)⟩
        simpa [Piece.shown] using isPlain_ofNat (n := q.bits * 64 + (b.toNat - 128))
          (by omega) (by omega)
      · exact opens_pending ⟨by simp, by simp; omega, by simp; omega⟩
    · obtain ⟨hsound, hplain, -⟩ := opens_start hcr hlf
      rw [start_eq]
      refine ⟨hsound, fun x hx => ?_, .inl (by simp)⟩
      obtain hx | hx := List.mem_append.1 hx
      · exact hplain x hx
      · rw [List.mem_singleton.1 hx]
        exact isPlain_shown_broken _ _

/-- An ASCII byte ends what is being read and stands for itself. -/
theorem Reader.step_of_lt {p : Option Pending} (hp : ∀ q ∈ p, q.Sound) {b : UInt8}
    (hb : b.toNat < 0x80) :
    (step ⟨[], p⟩ b).pending = none ∧
      (step ⟨[], p⟩ b).pieces.reverse.map Piece.shown =
        (finish ⟨[], p⟩).map Piece.shown ++ [Char.ofNat b.toNat] := by
  rcases p with _ | q
  · simp [step, start, hb, finish, Piece.shown]
  · have hout : ¬(q.low ≤ b.toNat ∧ b.toNat ≤ q.high) := by have := (hp q rfl).low_le; omega
    simp [step, start, hb, hout, finish, Piece.shown]

/-- The characters that bytes give behind what is being read. -/
def shownBehind (p : Option Pending) (bytes : Bytes) : List Char :=
  (bytes.foldl Reader.step ⟨[], p⟩).finish.map Piece.shown

/-- The pieces that were read stay in front. -/
theorem Reader.finish_foldl_step (bytes : Bytes) (r : Reader) :
    (bytes.foldl step r).finish =
      r.pieces.reverse ++ (bytes.foldl step ⟨[], r.pending⟩).finish := by
  induction bytes generalizing r with
  | nil => rcases r with ⟨pieces, _ | p⟩ <;> simp [finish]
  | cons b bytes ih =>
    rw [List.foldl_cons, List.foldl_cons, ih, ih (step ⟨[], r.pending⟩ b), step_eq r]
    simp

/-- What is shown for an octet and those behind it: the pieces that the octet completes, and what is
shown behind the reader that it leaves. -/
theorem shownBehind_cons (p : Option Pending) (b : UInt8) (bytes : Bytes) :
    shownBehind p (b :: bytes) = (Reader.step ⟨[], p⟩ b).pieces.reverse.map Piece.shown ++
      shownBehind (Reader.step ⟨[], p⟩ b).pending bytes := by
  rw [shownBehind, List.foldl_cons, Reader.finish_foldl_step, List.map_append, ← shownBehind]

/-- Every step keeps the reader sound. -/
theorem Reader.sound_step {p : Option Pending} (hp : ∀ q ∈ p, q.Sound) (b : UInt8) :
    (step ⟨[], p⟩ b).Sound := by
  by_cases hb : b.toNat < 0x80
  · exact sound_of_pending_eq_none (step_of_lt hp hb).1
  · exact (opens_step hp (by omega) (by omega)).sound

/-- Behind an ASCII byte the bytes are read as if they were the first ones. -/
theorem shownBehind_append_cons {p : Option Pending} (hp : ∀ q ∈ p, q.Sound) {b : UInt8}
    (hb : b.toNat < 0x80) (xs ys : Bytes) :
    shownBehind p (xs ++ b :: ys) =
      shownBehind p xs ++ Char.ofNat b.toNat :: shownBehind none ys := by
  induction xs generalizing p with
  | nil =>
    obtain ⟨hpending, hpieces⟩ := Reader.step_of_lt hp hb
    rw [List.nil_append, shownBehind_cons, hpending, hpieces]
    simp [shownBehind]
  | cons x xs ih =>
    rw [List.cons_append, shownBehind_cons, shownBehind_cons, ih (Reader.sound_step hp x),
      List.append_assoc]

/-- **An ASCII byte is read as itself**, whatever stands in front of it. -/
theorem decodeLossy_append_cons {b : UInt8} (hb : b.toNat < 0x80) (xs ys : Bytes) :
    decodeLossy (xs ++ b :: ys) = decodeLossy xs ++ octet b :: decodeLossy ys :=
  shownBehind_append_cons (by simp) hb xs ys

/-- An octet of ASCII is shown as its character, whatever stands behind it. -/
theorem decodeLossy_cons {b : UInt8} (hb : b.toNat < 0x80) (ys : Bytes) :
    decodeLossy (b :: ys) = octet b :: decodeLossy ys :=
  decodeLossy_append_cons hb [] ys

/-- An octet whose character is plain is no break of a line. -/
theorem toNat_ne_of_isPlain {b : UInt8} (h : IsPlain (octet b)) : b.toNat ≠ 13 ∧ b.toNat ≠ 10 :=
  ⟨fun hcr => h.1 (by rw [octet, hcr]), fun hlf => h.2 (by rw [octet, hlf])⟩

/-- Octets without breaks are shown without breaks, broken or not.  The induction is on the
octets. -/
theorem plain_of_mem_shownBehind {p : Option Pending} (hp : ∀ q ∈ p, q.Sound) {bytes : Bytes}
    (h : ∀ b ∈ bytes, IsPlain (octet b)) : ∀ c ∈ shownBehind p bytes, IsPlain c := by
  induction bytes generalizing p with
  | nil =>
    rcases p with _ | q
    · simp [shownBehind, Reader.finish]
    · simpa [shownBehind, Reader.finish] using isPlain_shown_broken _ _
  | cons b bytes ih =>
    obtain ⟨hb, h⟩ := List.forall_mem_cons.1 h
    obtain ⟨hcr, hlf⟩ := toNat_ne_of_isPlain hb
    obtain ⟨hsound, hplain, -⟩ := Reader.opens_step hp hcr hlf
    rw [shownBehind_cons]
    refine List.forall_mem_append.2 ⟨?_, ih hsound h⟩
    simpa using hplain

/-- **Bytes without a line break are read without one.** -/
theorem plain_of_mem_decodeLossy {bytes : Bytes} (h : ∀ b ∈ bytes, IsPlain (octet b)) :
    ∀ c ∈ decodeLossy bytes, IsPlain c :=
  plain_of_mem_shownBehind (by simp) h

/-- Something is shown wherever there is an octet, or a reader that waits for one. -/
theorem shownBehind_ne_nil {p : Option Pending} (hp : ∀ q ∈ p, q.Sound) {bytes : Bytes}
    (hsome : p ≠ none ∨ bytes ≠ []) : shownBehind p bytes ≠ [] := by
  induction bytes generalizing p with
  | nil =>
    obtain ⟨q, rfl⟩ := Option.ne_none_iff_exists'.1 (hsome.resolve_right (by simp))
    simp [shownBehind, Reader.finish]
  | cons b bytes ih =>
    rw [shownBehind_cons]
    by_cases hb : b.toNat < 0x80
    · simp [(Reader.step_of_lt hp hb).2]
    · obtain ⟨hsound, -, hpieces | hpending⟩ :=
        Reader.opens_step hp (b := b) (by omega) (by omega)
      · simp [hpieces]
      · simp [ih hsound (.inl hpending)]

/-- Bytes are read as nothing only if there are none. -/
theorem decodeLossy_eq_nil_iff {bytes : Bytes} : decodeLossy bytes = [] ↔ bytes = [] := by
  refine ⟨fun h => ?_, fun h => h ▸ rfl⟩
  by_contra hne
  exact shownBehind_ne_nil (p := none) (by simp) (.inr hne) h

end Utf8

/-- The number of an octet is the byte's. -/
theorem toNat_octet (b : UInt8) : (octet b).toNat = b.toNat := by
  have hvalid : b.toNat.isValidChar := .inl (by have := b.toNat_lt; omega)
  rw [octet, Char.ofNat, dif_pos hvalid]
  rfl

/-- Octets that are taken for characters can be taken back. -/
theorem bytesOf_octetsOf (bytes : Bytes) : bytesOf (octetsOf bytes) = bytes := by
  rw [bytesOf, octetsOf, List.map_map]
  exact List.map_id'' (fun b => by simp [toNat_octet]) bytes

/-- An octet that is no break of a line is a plain character. -/
theorem isPlain_octet {b : UInt8} (h : b ≠ 13 ∧ b ≠ 10) : IsPlain (octet b) :=
  Utf8.isPlain_ofNat (fun hcr => h.1 (UInt8.toNat_inj.1 hcr))
    fun hlf => h.2 (UInt8.toNat_inj.1 hlf)

/-- **Decoding keeps the line breaks**, however broken the bytes between them are. A break is made
of ASCII bytes, which end every piece that is pending and are read as themselves; and no piece
without such a byte is read as a break. -/
theorem keepsBreaks_decodeLossy : KeepsBreaks (13 : UInt8) 10 '\r' '\n' Utf8.decodeLossy where
  append line b rest := by
    have hbreak {x : UInt8} (hx : x.toNat < 0x80) (xs ys : Bytes) :=
      Utf8.decodeLossy_append_cons hx xs ys
    cases b with
    | cr => exact hbreak (by decide) line rest
    | lf => exact hbreak (by decide) line rest
    | crlf =>
      refine (hbreak (x := 13) (by decide) line (10 :: rest)).trans ?_
      rw [Utf8.decodeLossy_cons (by decide)]
      rfl
  plain line hline := Utf8.plain_of_mem_decodeLossy fun b hb => isPlain_octet (hline b hb)
  eq_nil_iff _ := Utf8.decodeLossy_eq_nil_iff

/-- Octets taken for characters have their breaks at the same places. -/
theorem keepsBreaks_octetsOf : KeepsBreaks (13 : UInt8) 10 '\r' '\n' octetsOf where
  append line b rest := by
    rw [octetsOf, octetsOf, octetsOf, List.map_append, List.map_append]
    cases b <;> rfl
  plain line hline := List.forall_mem_map.2 fun b hb => isPlain_octet (hline b hb)
  eq_nil_iff _ := List.map_eq_nil_iff

/-- **Decoding and cutting into lines commute.**  The lines of a decoded text are the lines of
its bytes, each of them decoded. -/
theorem linesOf_decodeLossy (bytes : Bytes) :
    linesOf (Utf8.decodeLossy bytes) =
      (linesOf (octetsOf bytes)).map fun octets => Utf8.decodeLossy (bytesOf octets) := by
  obtain ⟨r, rfl⟩ : ∃ r : Ruling (13 : UInt8) 10, r.text = bytes :=
    Ruling.exists_text_eq (by decide) bytes
  rw [← Ruling.text_map keepsBreaks_decodeLossy, ← Ruling.text_map keepsBreaks_octetsOf,
    linesOf_text, linesOf_text, Ruling.lines_map, Ruling.lines_map, List.map_map]
  simp [Function.comp_def, bytesOf_octetsOf]

end Text
end DeclSearch
