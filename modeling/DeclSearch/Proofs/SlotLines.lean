/-
# The order of replacement fields

The expressions in the fields of a literal stand in it one behind the other, each with its brace in
front and a mark behind it (`cut_of_slots`).  What all readers of a literal have in common is that
they go on in it, and `Format.Cut` says what a reader of fields has found on its way.

The text of an expression is read in brackets of its own and with a line feed behind it.  The
closing bracket takes the place of the mark (`Slot.stop`), and the feed is the last character, so
nothing stands behind it (`Slot.Within.bracketed`).
-/

import DeclSearch.Proofs.TokenOrder
import DeclSearch.Python.Format
import Mathlib.Data.List.Infix

namespace DeclSearch
namespace Python

variable {n : Nat}

namespace Format

/-- One step of reading text: it goes on behind a character, or it stops in front of it. -/
theorem readText_cons {raw top named : Bool} {skip : Nat} {done : List Char} {place : Position}
    {c : Char} {rest : List Char} {r : List Char × Cursor}
    (h : readText raw top named skip done place (c :: rest) = some r) :
    (∃ named skip, readText raw top named skip (c :: done) (place.after [c]) rest = some r) ∨
      r = (done.reverse, ⟨place, c :: rest⟩) := by
  rw [readText] at h
  split at h
  · exact .inl ⟨_, _, h⟩
  split at h
  · exact .inl ⟨_, _, h⟩
  split at h
  · -- behind a backslash
    split at h
    · exact .inl ⟨_, _, h⟩
    · split at h <;> exact .inl ⟨_, _, h⟩
  split at h
  · -- at a brace
    split at h
    · exact .inl ⟨_, _, h⟩
    split at h
    · exact nomatch h
    · exact .inr (Option.some.inj h).symm
  · exact .inl ⟨_, _, h⟩

/-- Reading text goes on in it. -/
theorem exists_reads_readText {raw top named : Bool} {skip : Nat} {done cs text : List Char}
    {place : Position} {stop : Cursor}
    (h : readText raw top named skip done place cs = some (text, stop)) :
    ∃ taken, Cursor.Reads ⟨place, cs⟩ taken stop := by
  induction cs generalizing named skip done place with
  | nil =>
    obtain ⟨-, rfl⟩ := Prod.mk.inj (Option.some.inj h)
    exact ⟨[], .refl _⟩
  | cons c rest ih =>
    obtain ⟨named, skip, h⟩ | h := readText_cons h
    · obtain ⟨taken, hread⟩ := ih h
      exact ⟨c :: taken, hread.cons rfl⟩
    · obtain ⟨-, rfl⟩ := Prod.mk.inj h
      exact ⟨[], .refl _⟩

/-- One step of reading an expression: it goes on behind a character, or it stops in front of
it. -/
theorem readExpression_cons {quote : Option Quote} {brackets done : List Char} {skip : Nat}
    {place : Position} {c : Char} {rest : List Char} {r : List Char × Cursor}
    (h : readExpression quote brackets skip done place (c :: rest) = some r) :
    (∃ quote brackets skip,
      readExpression quote brackets skip (c :: done) (place.after [c]) rest = some r) ∨
      c ≠ '\n' ∧ r = (done.reverse, ⟨place, c :: rest⟩) := by
  unfold readExpression at h
  dsimp only at h
  split at h
  · exact .inl ⟨_, _, _, h⟩
  split at h
  · exact nomatch h
  split at h
  · -- inside a quote
    split at h
    · exact .inl ⟨_, _, _, h⟩
    split at h
    · exact .inl ⟨_, _, _, h⟩
    split at h <;> exact .inl ⟨_, _, _, h⟩
  split at h
  · -- at a quote
    split at h <;> exact .inl ⟨_, _, _, h⟩
  split at h
  · -- at an opening bracket
    split at h
    · exact nomatch h
    · exact .inl ⟨_, _, _, h⟩
  split at h
  · exact nomatch h
  split at h
  · -- at a mark that may end the expression
    next hmark =>
    have hfeed : c ≠ '\n' := fun hc => by simp [hc, isMark] at hmark
    split at h
    · exact .inl ⟨_, _, _, h⟩
    split at h
    · exact .inl ⟨_, _, _, h⟩
    · exact .inr ⟨hfeed, (Option.some.inj h).symm⟩
  split at h
  · -- at a closing bracket
    split at h
    · split at h
      · exact .inl ⟨_, _, _, h⟩
      · exact nomatch h
    · exact nomatch h
  · exact .inl ⟨_, _, _, h⟩

/-- Reading an expression goes on in the text, gives what it has passed, and stops in front of
something else than a line feed. -/
theorem exists_reads_readExpression {quote : Option Quote} {brackets done cs text : List Char}
    {skip : Nat} {place : Position} {stop : Cursor}
    (h : readExpression quote brackets skip done place cs = some (text, stop)) :
    ∃ taken, text = done.reverse ++ taken ∧ Cursor.Reads ⟨place, cs⟩ taken stop ∧
      stop.rest.head? ≠ some '\n' := by
  induction cs generalizing quote brackets skip done place with
  | nil => exact nomatch h
  | cons c rest ih =>
    obtain ⟨quote, brackets, skip, h⟩ | ⟨hc, h⟩ := readExpression_cons h
    · obtain ⟨taken, rfl, hread, hstop⟩ := ih h
      exact ⟨c :: taken, by simp, hread.cons rfl, hstop⟩
    · obtain ⟨rfl, rfl⟩ := Prod.mk.inj h
      exact ⟨[], by simp, .refl _, by simpa using hc⟩

/-- Where the bracket that closes the expression of a slot stops. -/
def Slot.stop (s : Slot) : Position := s.brace.after ('(' :: s.text ++ [')'])

/-- Whether the expression in a slot ends on one of the first `n` lines. -/
def Slot.Within (n : Nat) (s : Slot) : Prop := Cursor.EndsBy n ⟨s.brace, s.text⟩

/-- In brackets and with a line feed behind them, the expression is still on its lines. -/
theorem Slot.Within.bracketed {s : Slot} (h : s.Within n) :
    Cursor.Within n ⟨s.brace, '(' :: s.text ++ [')', '\n']⟩ := by
  refine ⟨h.one_le, fun before ch behind hsplit hch => ?_⟩
  have hle := h.le
  have hsplit : '(' :: s.text ++ [')'] ++ ['\n'] = before ++ ch :: behind := by simpa using hsplit
  rcases List.eq_nil_or_concat behind with rfl | ⟨front, last, rfl⟩
  · obtain ⟨-, hlast⟩ := List.append_inj' hsplit rfl
    exact absurd (List.head_eq_of_cons_eq hlast).symm hch
  · have hsplit : '(' :: s.text ++ [')'] ++ ['\n'] = before ++ ch :: front ++ [last] := by
      simpa using hsplit
    obtain ⟨hfront, -⟩ := List.append_inj' hsplit rfl
    have hcount := congrArg (List.count '\n') hfront
    simp [List.count_cons] at hcount
    dsimp only at hle ⊢
    omega

/-- What a reader of fields has found from one cursor to another: slots one behind the other. -/
structure Cut (c : Cursor) (slots : List Slot) (stop : Cursor) : Prop where
  reads : ∃ taken, c.Reads taken stop
  starts : ∀ s ∈ slots, c.place.place ≤ s.brace.place
  stops : ∀ s ∈ slots, s.stop.place ≤ stop.place.place
  ordered : slots.Pairwise fun a b => a.stop.place ≤ b.brace.place

variable {c middle stop : Cursor} {slots others : List Slot} {taken : List Char}

/-- Cutting a literal never leads back. -/
theorem Cut.place_le (h : Cut c slots stop) : c.place.place ≤ stop.place.place := by
  obtain ⟨taken, hread⟩ := h.reads
  exact hread.place_le

/-- Going on without a slot. -/
theorem Cut.of_reads (h : c.Reads taken stop) : Cut c [] stop :=
  ⟨⟨taken, h⟩, by simp, by simp, .nil⟩

/-- Slots behind others. -/
theorem Cut.append (h : Cut c slots middle) (h' : Cut middle others stop) :
    Cut c (slots ++ others) stop := by
  obtain ⟨front, hfront⟩ := h.reads
  obtain ⟨back, hback⟩ := h'.reads
  refine ⟨⟨_, hfront.trans hback⟩, List.forall_mem_append.2 ⟨h.starts, ?_⟩,
    List.forall_mem_append.2 ⟨?_, h'.stops⟩, List.pairwise_append.2 ⟨h.ordered, h'.ordered, ?_⟩⟩
  · exact fun s hs => hfront.place_le.trans (h'.starts s hs)
  · exact fun s hs => (h.stops s hs).trans hback.place_le
  · exact fun a ha b hb => (h.stops a ha).trans (h'.starts b hb)

/-- Going on by one character reads that character, if there is one. -/
theorem reads_next (c : Cursor) : c.Reads (c.rest.take 1) (next c) := c.reads_after 1

/-- Passing over an equals sign and the blanks behind it reads on. -/
theorem exists_reads_passEquals (c : Cursor) : ∃ taken, c.Reads taken (passEquals c) := by
  unfold passEquals
  split
  · refine ⟨_, (reads_next c).trans ⟨?_, rfl⟩⟩
    exact (List.prefix_append_drop (List.takeWhile_prefix _)).symm ▸ rfl
  · exact ⟨[], .refl c⟩

/-- Passing over a conversion reads on. -/
theorem exists_reads_passConversion (h : passConversion c = some stop) :
    ∃ taken, c.Reads taken stop := by
  unfold passConversion at h
  split at h
  · dsimp only at h
    split at h
    · obtain rfl := Option.some.inj h
      exact ⟨_, (reads_next c).trans (reads_next _)⟩
    · exact nomatch h
  · obtain rfl := Option.some.inj h
    exact ⟨[], .refl c⟩

/-- A closing bracket in the place of something else than a line feed does not stop behind it. -/
theorem place_after_bracket_le (h : c.Reads taken stop) (hne : taken ≠ [])
    (hhead : c.rest.head? ≠ some '\n') : (c.place.after [')']).place ≤ stop.place.place := by
  rcases taken with _ | ⟨first, taken⟩
  · exact absurd rfl hne
  · have hfirst : '\n' ∉ [first] := by
      rw [List.mem_singleton]
      exact fun hfeed => hhead (by rw [h.rest, ← hfeed]; rfl)
    have hone : c.place.after [first] = c.place.after [')'] := by
      rw [Position.after_of_notMem _ hfirst, Position.after_of_notMem _ (by decide)]
      rfl
    rw [h.place]
    change _ ≤ ((c.place.after [first]).after taken).place
    rw [hone]
    exact Position.place_le_after _ taken

/-- The slot of a field, up to the octet behind its expression, its sign and its conversion. -/
theorem cut_slot {brace mark behind : Cursor} {text past : List Char} {o : Char}
    (hbrace : brace.rest.head? = some '\x7b') (hread : (next brace).Reads text mark)
    (hhead : mark.rest.head? ≠ some '\n') (hpast : mark.Reads past behind)
    (ho : behind.rest.head? = some o) : Cut brace [⟨text, brace.place⟩] (next behind) := by
  obtain ⟨rest, hrest⟩ := List.head?_eq_some_iff.1 hbrace
  have hopen : (next brace).place = brace.place.after ['('] := by
    change brace.place.after (brace.rest.take 1) = _
    rw [hrest]
    rfl
  have hslot : Slot.stop ⟨text, brace.place⟩ = mark.place.after [')'] := by
    rw [hread.place, hopen, ← Position.after_append, ← Position.after_append]
    rfl
  obtain ⟨more, hmore⟩ := List.head?_eq_some_iff.1 ho
  have hnext := hpast.trans (reads_next behind)
  refine ⟨⟨_, ((reads_next brace).trans hread).trans hnext⟩, by simp, ?_,
    List.pairwise_singleton _ _⟩
  rw [List.forall_mem_singleton, hslot]
  exact place_after_bracket_le hnext (by simp [hmore]) hhead

/-- A field at its opening brace. -/
theorem cut_readField {format : Cursor → Cutting}
    (hformat : ∀ c slots stop, format c = .ok (slots, stop) → Cut c slots stop) {brace : Cursor}
    (hbrace : brace.rest.head? = some '\x7b') (h : readField format brace = .ok (slots, stop)) :
    Cut brace slots stop := by
  unfold readField at h
  dsimp only at h
  split at h
  · exact nomatch h
  next text mark hexpression =>
  obtain ⟨_, rfl, hread, hhead⟩ := exists_reads_readExpression hexpression
  split at h
  · exact nomatch h
  split at h
  · exact nomatch h
  next behind hbehind =>
  obtain ⟨sign, hsign⟩ := exists_reads_passEquals mark
  obtain ⟨conversion, hconversion⟩ := exists_reads_passConversion hbehind
  have hslot {o : Char} := @cut_slot _ _ _ _ _ o hbrace hread hhead (hsign.trans hconversion)
  split at h
  · exact nomatch h
  next inner last hinner =>
  split at h
  · next hlast =>
    obtain ⟨rfl, rfl⟩ := Prod.mk.inj (Except.ok.inj h)
    split at hinner
    · -- a format behind a colon
      next hcolon =>
      have hrest := (hformat _ _ _ hinner).append (.of_reads (reads_next last))
      rw [List.append_nil] at hrest
      exact (hslot hcolon).append hrest
    · obtain ⟨rfl, rfl⟩ := Prod.mk.inj (Except.ok.inj hinner)
      exact hslot hlast
  · exact nomatch h

/-- Text and fields are cut in order: what is found in a field stands behind the text in front of
it, and what is found later stands behind the field. The induction is on the fuel, with `hfield` for
a single field. -/
theorem cut_readFields {field : Cursor → Cutting}
    (hfield : ∀ c slots stop, c.rest.head? = some '\x7b' → field c = .ok (slots, stop) →
      Cut c slots stop) {raw top : Bool} {fuel : Nat}
    (h : readFields field raw top fuel c = .ok (slots, stop)) : Cut c slots stop := by
  induction fuel generalizing c slots with
  | zero => exact nomatch h
  | succ fuel ih =>
    rw [readFields] at h
    split at h
    · exact nomatch h
    next text brace htext =>
    obtain ⟨taken, hread⟩ := exists_reads_readText htext
    split at h
    · exact nomatch h
    split at h
    · next hbrace =>
      -- a field behind the text, and what is behind the field
      split at h
      · exact nomatch h
      next found behind hfound =>
      split at h
      · exact nomatch h
      next others last hothers =>
      obtain ⟨rfl, rfl⟩ := Prod.mk.inj (Except.ok.inj h)
      exact (Cut.of_reads hread).append ((hfield _ _ _ hbrace hfound).append (ih hothers))
    · -- text up to the end
      obtain ⟨rfl, rfl⟩ := Prod.mk.inj (Except.ok.inj h)
      exact .of_reads hread

/-- Reading a format behind a colon cuts the slots in it. -/
theorem cut_readFormat {raw : Bool} {fuel depth : Nat}
    (h : readFormat raw fuel depth c = .ok (slots, stop)) : Cut c slots stop := by
  induction depth generalizing c slots stop with
  | zero => exact cut_readFields (fun _ _ _ _ h => absurd h (by simp)) h
  | succ depth ih =>
    exact cut_readFields (fun _ _ _ hbrace h => cut_readField (fun _ _ _ h => ih h) hbrace h) h

/-- **Slots.**  The expressions in a literal stand in its text, one behind the other. -/
theorem cut_of_slots {l : Literal} {found : List Slot} (h : Format.slots l = .ok found) :
    Cut ⟨l.start, l.body⟩ found ⟨l.start.after l.body, []⟩ := by
  unfold Format.slots at h
  dsimp only at h
  split at h
  · exact nomatch h
  next others stop hfound =>
  obtain ⟨place, rest⟩ := stop
  split at h
  · next hempty =>
    obtain rfl := Except.ok.inj h
    obtain rfl := List.isEmpty_iff.1 hempty
    have hcut := cut_readFields (fun _ _ _ hbrace h =>
      cut_readField (fun _ _ _ h => cut_readFormat h) hbrace h) hfound
    obtain ⟨taken, hread⟩ := hcut.reads
    obtain rfl : l.body = taken := by simpa using hread.rest
    obtain rfl : place = l.start.after l.body := hread.place
    exact hcut
  · exact nomatch h

/-- The expressions in a literal end on the lines on which the literal does. -/
theorem within_of_slots {l : Literal} (hl : l.Within n) {found : List Slot}
    (h : Format.slots l = .ok found) : ∀ s ∈ found, s.Within n := by
  intro s hs
  have hcut := cut_of_slots h
  have hstart := Position.place_le_iff.1 (hcut.starts s hs)
  have hstop := Position.place_le_iff.1 (hcut.stops s hs)
  have hone := hl.one_le
  have hle := hl.le
  rw [Slot.stop, Position.line_after, Position.line_after] at hstop
  simp only [List.cons_append, List.count_cons, List.count_append, List.count_nil] at hstop
  dsimp only at hstart hone hle
  simp at hstop
  exact ⟨by dsimp only; omega, by dsimp only; omega⟩

end Format
end Python
end DeclSearch
