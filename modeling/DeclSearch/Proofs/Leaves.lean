/-
# The leaves of tokens

A literal may hold expressions, whose tokens are cut from its text anew and may be literals again.
The leaves of a token are the words that are found in the end (`Token.leaves`): names, keywords,
numbers and signs, to a depth of literals in literals.  A leaf has the properties of a token that
the lexer has found (`Token.Sound.leaves`).

Leaves stand in their text one behind the other (`inOrder_leaves`), though each literal is cut by
itself: its slots stand in it in order, and the tokens of a slot stand between the brace and the
mark of the slot.  But that is where they are found; a string that starts on the line of the brace
and stops on another one is noted elsewhere.  So for the order no string in a slot may go on over
the end of a line (`Literal.keepsLines`).  This has to be asked of the outermost literals only,
since a string on one line holds nothing but strings on this line (`Token.keepsLines_of_line`).
-/

import DeclSearch.Proofs.SlotLines

namespace DeclSearch
namespace Python

variable {front back : Position} {n depth : Nat}

/-! ### Where tokens are noted -/

/-- From two places on one line the same text leads to places in the same order. -/
theorem Position.after_le_after {p q : Position} (hline : p.line = q.line)
    (hcolumn : p.column ≤ q.column) (taken : List Char) :
    (p.after taken).place ≤ (q.after taken).place := by
  induction taken generalizing p q with
  | nil => exact place_le_iff.2 (.inr ⟨hline, hcolumn⟩)
  | cons c rest ih =>
    change ((p.after [c]).after rest).place ≤ ((q.after [c]).after rest).place
    by_cases hc : c = '\n'
    · exact ih (by simp [after, hc, hline]) (by simp [after, hc])
    · exact ih (by simpa [after, hc] using hline) (by simpa [after, hc] using hcolumn)

variable {brace : Position} {t : Token}

namespace Format

/-- A token is noted where it stands, or it is a string that goes on over the end of a line and is
noted further to the left. -/
theorem Slot.noted_eq_or (brace : Position) (t : Token) :
    Slot.noted brace t = t ∨ ∃ l, t.word = .string l ∧ t.start.line ≠ t.stop.line ∧
      Slot.noted brace t =
        ⟨.string { l with start := ⟨l.start.line, l.start.column - brace.column⟩ },
          ⟨t.start.line, t.start.column - brace.column⟩, t.stop⟩ := by
  unfold Slot.noted
  split
  · next hlines =>
    dsimp only
    split
    · next l hw => exact .inr ⟨l, hw, fun h => hlines.2 (h.symm.trans hlines.1), rfl⟩
    · exact .inl rfl
  · exact .inl rfl

/-- A token that is no string, or a string on one line, is noted where it stands. -/
theorem Slot.noted_eq (h : ∀ l, t.word = .string l → t.start.line = t.stop.line) :
    Slot.noted brace t = t := by
  obtain heq | ⟨l, hw, hline, -⟩ := Slot.noted_eq_or brace t
  · exact heq
  · exact absurd (h l hw) hline

end Format

/-- What is true of a token by its word is true of it where it is noted: the literal is moved with
its token. -/
theorem Token.Sound.noted (h : t.Sound) : (Format.Slot.noted brace t).Sound := by
  obtain heq | ⟨l, hw, hline, heq⟩ := Format.Slot.noted_eq_or brace t
  · rwa [heq]
  rw [heq]
  obtain ⟨hstart, hstop⟩ := h.literal l hw
  have hlt := Position.place_lt_iff.1 (h.start_lt (by rw [hw]; rfl))
  refine ⟨fun _ => Position.place_lt_iff.2 (.inl (by dsimp only; omega)),
    fun _ _ hname => (nomatch hname), fun l' hl' => ?_⟩
  obtain rfl := Word.string.inj hl'
  have hmoved := Position.after_le_after (p := ⟨l.start.line, l.start.column - brace.column⟩)
    (q := l.start) rfl (Nat.sub_le _ _) l.body
  refine ⟨Position.place_le_iff.2 ?_, hmoved.trans hstop⟩
  rw [Position.place_le_iff] at hstart
  dsimp only
  omega

/-- A token is noted on the lines on which it stands. -/
theorem Token.Within.noted (h : t.Within n) : (Format.Slot.noted brace t).Within n := by
  obtain heq | ⟨l, hw, -, heq⟩ := Format.Slot.noted_eq_or brace t
  · rwa [heq]
  rw [heq]
  have hlayout : t.word.isLayout = false := by
    rw [hw]
    rfl
  refine ⟨fun _ => h.start hlayout, fun _ => h.stop hlayout, fun l' hl' => ?_⟩
  obtain rfl := Word.string.inj hl'
  exact ⟨(h.literal l hw).one_le, (h.literal l hw).le⟩

/-! ### Leaves -/

/-- The tokens of the expression in a slot, where all of it can be cut into tokens. -/
def Format.Slot.words (s : Format.Slot) : List Token := s.tokens.toOption.getD []

/-- The tokens of the expressions in a literal, where it can be cut into slots. -/
def Literal.tokens (l : Literal) : List Token :=
  if l.isFormat then ((Format.slots l).toOption.getD []).flatMap Format.Slot.words else []

/-- The leaves of a token, given those of a literal. -/
def Token.leavesBy (inner : Literal → List Token) (t : Token) : List Token :=
  match t.word with
  | .string l => inner l
  | w => if w.isLayout then [] else [t]

/-- The leaves of a token, to a depth of literals in literals. -/
def Token.leaves : (depth : Nat) → Token → List Token
  | 0 => leavesBy fun _ => []
  | depth + 1 => leavesBy fun l => l.tokens.flatMap (leaves depth)

/-- Whether a word is a leaf of its own. -/
def Word.isLeaf : Word → Bool
  | .keyword _ | .name _ _ | .number _ | .sign _ => true
  | _ => false

/-- A leaf is no layout. -/
theorem Word.isLayout_of_isLeaf {w : Word} (h : w.isLeaf) : w.isLayout = false := by
  cases w <;> first | rfl | exact nomatch h

/-- A leaf has itself for its only leaf. -/
theorem Token.leaves_of_isLeaf {t : Token} (h : t.word.isLeaf) (depth : Nat) :
    t.leaves depth = [t] := by
  have hby (inner : Literal → List Token) : t.leavesBy inner = [t] := by
    unfold leavesBy
    split
    · next hw => exact absurd h (by simp [hw, Word.isLeaf])
    · rw [if_neg (by simp [Word.isLayout_of_isLeaf h])]
  cases depth <;> exact hby _

/-- Layout has no leaves. -/
theorem Token.leaves_of_isLayout {t : Token} (h : t.word.isLayout) (depth : Nat) :
    t.leaves depth = [] := by
  have hby (inner : Literal → List Token) : t.leavesBy inner = [] := by
    unfold leavesBy
    split
    · next hw => exact absurd h (by simp [hw, Word.isLayout])
    · exact if_pos h
  cases depth <;> exact hby _

/-- The leaves of a string are those of the tokens in it, one level deeper. -/
theorem Token.leaves_of_string {t : Token} {l : Literal} (h : t.word = .string l) (depth : Nat) :
    t.leaves (depth + 1) = l.tokens.flatMap (leaves depth) := by
  rw [leaves, leavesBy, h]

/-- The words among some tokens. -/
def wordsOf (ts : List Token) : List Token := ts.filter fun t => !t.word.isLayout

/-- The words among some tokens are those that are no layout. -/
theorem mem_wordsOf {ts : List Token} : t ∈ wordsOf ts ↔ t ∈ ts ∧ t.word.isLayout = false := by
  simp [wordsOf]

/-- Only words have leaves. -/
theorem flatMap_leaves_wordsOf (ts : List Token) (depth : Nat) :
    (wordsOf ts).flatMap (Token.leaves depth) = ts.flatMap (Token.leaves depth) := by
  induction ts with
  | nil => rfl
  | cons t ts ih =>
    rw [wordsOf] at ih ⊢
    rcases hw : t.word.isLayout with _ | _
    · rw [List.filter_cons_of_pos (by simp [hw]), List.flatMap_cons, List.flatMap_cons, ih]
    · rw [List.filter_cons_of_neg (by simp [hw]), List.flatMap_cons,
        Token.leaves_of_isLayout hw, ih, List.nil_append]

namespace Format

variable {s : Slot}

/-- The words of a slot are tokens of its text, as its reader notes them. -/
theorem Slot.words_eq_or (s : Slot) :
    s.words = [] ∨ ∃ ts, Lexer.tokensAt s.brace ('(' :: s.text ++ [')', '\n']) = .ok ts ∧
      s.words = ts.map (Slot.noted s.brace) := by
  unfold Slot.words Slot.tokens
  split
  · next ts hts => exact .inr ⟨ts, hts, rfl⟩
  · exact .inl rfl

/-- The words of a slot have the properties of tokens that the lexer has found. -/
theorem Slot.sound_of_mem_words (h : t ∈ s.words) : t.Sound := by
  obtain hnil | ⟨ts, htokens, hwords⟩ := s.words_eq_or
  · exact absurd (hnil ▸ h) List.not_mem_nil
  · rw [hwords] at h
    obtain ⟨u, hu, rfl⟩ := List.mem_map.1 h
    obtain ⟨stop, hfound⟩ := Lexer.found_tokensAt htokens
    exact (hfound.sound u (List.mem_reverse.2 hu)).noted

end Format

/-- The words of a literal are those of its slots. -/
theorem Literal.mem_tokens {l : Literal} (h : t ∈ l.tokens) :
    ∃ slots, Format.slots l = .ok slots ∧ ∃ s ∈ slots, t ∈ s.words := by
  unfold tokens at h
  split at h
  · obtain ⟨s, hs, ht⟩ := List.mem_flatMap.1 h
    rcases hslots : Format.slots l with _ | slots
    · rw [hslots] at hs
      exact absurd hs List.not_mem_nil
    · rw [hslots] at hs
      exact ⟨slots, rfl, s, hs, ht⟩
  · exact absurd h List.not_mem_nil

/-- A leaf of a token is the token itself, or a leaf of a word of its literal. -/
theorem Token.eq_or_of_mem_leaves {u : Token} (h : u ∈ t.leaves depth) :
    u = t ∧ t.word.isLayout = false ∨
      ∃ l inner v, depth = inner + 1 ∧ t.word = .string l ∧ v ∈ l.tokens ∧ u ∈ v.leaves inner := by
  cases depth with
  | zero =>
    rw [leaves, leavesBy] at h
    split at h
    · exact absurd h List.not_mem_nil
    · split at h
      · exact absurd h List.not_mem_nil
      · next hw => exact .inl ⟨List.mem_singleton.1 h, by simpa using hw⟩
  | succ inner =>
    rw [leaves, leavesBy] at h
    split at h
    · next l hl =>
      obtain ⟨v, hv, hu⟩ := List.mem_flatMap.1 h
      exact .inr ⟨l, inner, v, rfl, hl, hv, hu⟩
    · split at h
      · exact absurd h List.not_mem_nil
      · next hw => exact .inl ⟨List.mem_singleton.1 h, by simpa using hw⟩

/-- **The leaves of a token** are words, with the properties of tokens that the lexer has found. -/
theorem Token.Sound.leaves (ht : t.Sound) (depth : Nat) :
    ∀ u ∈ t.leaves depth, u.Sound ∧ u.word.isLayout = false := by
  induction depth generalizing t with
  | zero =>
    intro u hu
    obtain ⟨rfl, hw⟩ | ⟨_, _, _, hdepth, -⟩ := Token.eq_or_of_mem_leaves hu
    · exact ⟨ht, hw⟩
    · exact nomatch hdepth
  | succ depth ih =>
    intro u hu
    obtain ⟨rfl, hw⟩ | ⟨l, inner, v, hdepth, -, hv, hu⟩ := Token.eq_or_of_mem_leaves hu
    · exact ⟨ht, hw⟩
    · obtain rfl := Nat.succ.inj hdepth
      obtain ⟨_, -, s, -, hv⟩ := Literal.mem_tokens hv
      exact ih (Format.Slot.sound_of_mem_words hv) u hu

/-- The leaves of a token on the first `n` lines are on these lines. -/
theorem Token.Within.leaves (ht : t.Within n) (depth : Nat) : ∀ u ∈ t.leaves depth, u.Within n := by
  induction depth generalizing t with
  | zero =>
    intro u hu
    obtain ⟨rfl, -⟩ | ⟨_, _, _, hdepth, -⟩ := eq_or_of_mem_leaves hu
    · exact ht
    · exact nomatch hdepth
  | succ depth ih =>
    intro u hu
    obtain ⟨rfl, -⟩ | ⟨l, inner, v, hdepth, hl, hv, hu⟩ := eq_or_of_mem_leaves hu
    · exact ht
    · obtain rfl := Nat.succ.inj hdepth
      obtain ⟨slots, hslots, s, hs, hv⟩ := Literal.mem_tokens hv
      have hwithin := Format.within_of_slots (ht.literal l hl) hslots s hs
      obtain hnil | ⟨ts, htokens, hwords⟩ := s.words_eq_or
      · exact absurd (hnil ▸ hv) List.not_mem_nil
      · rw [hwords] at hv
        obtain ⟨w, hw, rfl⟩ := List.mem_map.1 hv
        exact ih (Lexer.within_tokensAt htokens hwithin.bracketed w hw).noted u hu

/-! ### The order of leaves -/

/-- Words that stand one behind the other between two positions. -/
structure InOrder (front back : Position) (ts : List Token) : Prop where
  words : ∀ t ∈ ts, t.word.isLayout = false
  sound : ∀ t ∈ ts, t.Sound
  starts : ∀ t ∈ ts, front.place ≤ t.start.place
  stops : ∀ t ∈ ts, t.stop.place ≤ back.place
  ordered : ts.Pairwise fun a b => a.stop.place ≤ b.start.place

/-- No words are in order between any two positions. -/
theorem InOrder.nil : InOrder front back [] :=
  ⟨by simp, by simp, by simp, by simp, .nil⟩

/-- A word is in order between its start and its end. -/
theorem InOrder.singleton (hw : t.word.isLayout = false) (hsound : t.Sound) :
    InOrder t.start t.stop [t] :=
  ⟨by simpa using hw, by simpa using hsound, by simp, by simp, List.pairwise_singleton _ _⟩

/-- What stands in pieces of a text that are in order is in order. -/
theorem InOrder.flatMap {ι : Type} {l : List ι} {f : ι → List Token} {start stop : ι → Position}
    (hstarts : ∀ i ∈ l, front.place ≤ (start i).place)
    (hstops : ∀ i ∈ l, (stop i).place ≤ back.place)
    (hordered : l.Pairwise fun i j => (stop i).place ≤ (start j).place)
    (h : ∀ i ∈ l, InOrder (start i) (stop i) (f i)) : InOrder front back (l.flatMap f) := by
  refine ⟨?_, ?_, ?_, ?_, ?_⟩
  · simp only [List.mem_flatMap]
    rintro t ⟨i, hi, ht⟩
    exact (h i hi).words t ht
  · simp only [List.mem_flatMap]
    rintro t ⟨i, hi, ht⟩
    exact (h i hi).sound t ht
  · simp only [List.mem_flatMap]
    rintro t ⟨i, hi, ht⟩
    exact (hstarts i hi).trans ((h i hi).starts t ht)
  · simp only [List.mem_flatMap]
    rintro t ⟨i, hi, ht⟩
    exact ((h i hi).stops t ht).trans (hstops i hi)
  · rw [List.pairwise_flatMap]
    refine ⟨fun i hi => (h i hi).ordered, hordered.imp_of_mem fun {i j} hi hj hij s hs t ht => ?_⟩
    exact ((h i hi).stops s hs).trans (hij.trans ((h j hj).starts t ht))

/-- The words that the lexer has found. -/
theorem Lexer.Found.inOrder {start c : Cursor} {ts : List Token} {stop : Position}
    (h : Found start c ts.reverse)
    (hstops : ∀ t ∈ ts, t.word.isLayout = false → t.stop.place ≤ stop.place) :
    InOrder start.place stop (wordsOf ts) := by
  have hmem {t : Token} (ht : t ∈ wordsOf ts) : t ∈ ts.reverse :=
    List.mem_reverse.2 (mem_wordsOf.1 ht).1
  refine ⟨fun t ht => (mem_wordsOf.1 ht).2, fun t ht => h.sound t (hmem ht),
    fun t ht => (h.starts t (hmem ht)).1, fun t ht => ?_, ?_⟩
  · exact hstops t (mem_wordsOf.1 ht).1 (mem_wordsOf.1 ht).2
  · exact (List.pairwise_reverse.1 h.ordered).sublist List.filter_sublist

/-- **The tokens of a text** stand one behind the other. -/
theorem inOrder_tokensAt {place : Position} {source : List Char} {ts : List Token}
    (h : Lexer.tokensAt place source = .ok ts) :
    ∃ stop, InOrder place stop (wordsOf ts) := by
  obtain ⟨stop, hfound⟩ := Lexer.found_tokensAt h
  exact ⟨stop.place, hfound.inOrder fun t ht _ => hfound.stops t (List.mem_reverse.2 ht)⟩

/-- The tokens that are found in a slot stand between its brace and its mark. -/
theorem Format.Slot.inOrder_tokensAt {s : Slot} {ts : List Token}
    (h : Lexer.tokensAt s.brace ('(' :: s.text ++ [')', '\n']) = .ok ts) :
    InOrder s.brace s.stop (wordsOf ts) := by
  obtain ⟨stop, hfound⟩ := Lexer.found_tokensAt h
  refine hfound.inOrder fun t ht hw => ?_
  obtain ⟨behind, ⟨taken, last, hlast, hread⟩, hstop⟩ := hfound.inside t (List.mem_reverse.2 ht) hw
  -- The text ends in a line feed, and the token does not.
  have hsplit : '(' :: s.text ++ [')'] ++ ['\n'] = taken ++ [last] ++ behind.rest := by
    simpa using hread.rest
  rcases List.eq_nil_or_concat behind.rest with hnil | ⟨more, feed, hmore⟩
  · rw [hnil, List.append_nil] at hsplit
    obtain ⟨-, hfeed⟩ := List.append_inj' hsplit rfl
    exact absurd (List.head_eq_of_cons_eq hfeed).symm hlast
  · rw [hmore, List.concat_eq_append, ← List.append_assoc] at hsplit
    obtain ⟨htext, -⟩ := List.append_inj' hsplit rfl
    rw [hstop, hread.place, Format.Slot.stop, htext, Position.after_append _ (taken ++ [last])]
    exact Position.place_le_after _ more

/-- Whether every string in a slot stops on the line on which it starts. -/
def Format.Slot.keepsLines (s : Slot) : Bool :=
  match Lexer.tokensAt s.brace ('(' :: s.text ++ [')', '\n']) with
  | .ok ts => ts.all fun t => !(t.word matches .string _) || t.start.line == t.stop.line
  | .error _ => true

/-- Whether every string in the slots of a literal stops on the line on which it starts. -/
def Literal.keepsLines (l : Literal) : Bool :=
  match Format.slots l with
  | .ok slots => !l.isFormat || slots.all Format.Slot.keepsLines
  | .error _ => true

/-- Whether a token holds no string that goes on over the end of a line. -/
def Token.keepsLines (t : Token) : Bool :=
  match t.word with
  | .string l => l.keepsLines
  | _ => true

/-- A slot keeps to its lines if every string in it ends on the line where it starts. -/
theorem Format.Slot.keepsLines_iff {s : Slot} : s.keepsLines ↔
    ∀ ts, Lexer.tokensAt s.brace ('(' :: s.text ++ [')', '\n']) = .ok ts →
      ∀ u ∈ ts, ∀ l, u.word = .string l → u.start.line = u.stop.line := by
  unfold keepsLines
  rcases Lexer.tokensAt s.brace ('(' :: s.text ++ [')', '\n']) with _ | ts
  · simp
  · simp only [List.all_eq_true, Except.ok.injEq, forall_eq']
    refine forall₂_congr fun u _ => ?_
    cases u.word <;> simp

/-- A literal keeps to its lines if its slots do, where it has any. -/
theorem Literal.keepsLines_iff {l : Literal} : l.keepsLines ↔
    (l.isFormat → ∀ slots, Format.slots l = .ok slots → ∀ s ∈ slots, s.keepsLines) := by
  unfold keepsLines
  rcases Format.slots l with _ | slots
  · simp
  · cases l.isFormat <;> simp

/-- A token keeps to its lines if it is no string or its literal does. -/
theorem Token.keepsLines_iff : t.keepsLines ↔ ∀ l, t.word = .string l → l.keepsLines := by
  unfold keepsLines
  cases t.word <;> simp

/-- Where all strings of a slot are on one line each, its words are noted where they stand. -/
theorem Format.Slot.inOrder_words {s : Slot} (h : s.keepsLines) :
    InOrder s.brace s.stop (wordsOf s.words) ∧
      ∀ u ∈ s.words, ∀ l, u.word = .string l → u.start.line = u.stop.line := by
  obtain hnil | ⟨ts, htokens, hwords⟩ := s.words_eq_or
  · rw [hnil]
    exact ⟨.nil, by simp⟩
  have hlines := keepsLines_iff.1 h ts htokens
  have hsame : s.words = ts := by
    rw [hwords]
    exact (List.map_congr_left fun u hu => noted_eq (hlines u hu)).trans (List.map_id ts)
  rw [hsame]
  exact ⟨inOrder_tokensAt htokens, hlines⟩

/-- A string on one line holds no string that goes on over its end. -/
theorem Token.keepsLines_of_line (ht : t.Sound)
    (hline : ∀ l, t.word = .string l → t.start.line = t.stop.line) : t.keepsLines := by
  refine keepsLines_iff.2 fun l hl => Literal.keepsLines_iff.2 fun _ slots hslots s hs =>
    Format.Slot.keepsLines_iff.2 fun ts htokens u hu l' hw => ?_
  -- What is found in the slot stands between the ends of the literal, which are on one line.
  have hline := hline l hl
  obtain ⟨hstart, hstop⟩ := ht.literal l hl
  have hcut := Format.cut_of_slots hslots
  have horder := Format.Slot.inOrder_tokensAt htokens
  have hmem : u ∈ wordsOf ts := mem_wordsOf.2 ⟨hu, by rw [hw]; rfl⟩
  have hlow := Position.line_le_of_place_le
    ((hstart.trans (hcut.starts s hs)).trans (horder.starts u hmem))
  have hhigh := Position.line_le_of_place_le
    ((horder.stops u hmem).trans ((hcut.stops s hs).trans hstop))
  have hle := Position.line_le_of_place_le ((horder.sound u hmem).start_lt (by rw [hw]; rfl)).le
  omega

/-- The leaves of a word stand where the word does, if it holds no string that goes on over the end
of a line. -/
theorem inOrder_leaves_of_sound (ht : t.Sound) (hw : t.word.isLayout = false)
    (hlines : t.keepsLines) (depth : Nat) : InOrder t.start t.stop (t.leaves depth) := by
  induction depth generalizing t with
  | zero =>
    rw [Token.leaves, Token.leavesBy]
    split
    · exact .nil
    · rw [hw]
      exact .singleton hw ht
  | succ depth ih =>
    rw [Token.leaves, Token.leavesBy]
    split
    · next l hl =>
      obtain ⟨hstart, hstop⟩ := ht.literal l hl
      have hkeeps := Literal.keepsLines_iff.1 (Token.keepsLines_iff.1 hlines l hl)
      unfold Literal.tokens
      split
      · next hformat =>
        rw [List.flatMap_assoc]
        -- The slots are in order, and so are the words of a slot and by induction their leaves.
        rcases hslots : Format.slots l with _ | slots
        · exact .nil
        · have hcut := Format.cut_of_slots hslots
          refine .flatMap (fun s hs => hstart.trans (hcut.starts s hs))
            (fun s hs => (hcut.stops s hs).trans hstop) hcut.ordered fun s hs => ?_
          obtain ⟨hslot, hstrings⟩ := Format.Slot.inOrder_words (hkeeps hformat slots hslots s hs)
          rw [← flatMap_leaves_wordsOf]
          refine .flatMap hslot.starts hslot.stops hslot.ordered fun u hu => ?_
          have husound := hslot.sound u hu
          exact ih husound (hslot.words u hu)
            (Token.keepsLines_of_line husound (hstrings u (mem_wordsOf.1 hu).1))
      · exact .nil
    · rw [hw]
      exact .singleton hw ht

/-- **The leaves of tokens** stand one behind the other, where no token holds a string that goes on
over the end of a line. -/
theorem inOrder_leaves {ts : List Token} (h : InOrder front back (wordsOf ts))
    (hlines : ∀ t ∈ ts, t.keepsLines) (depth : Nat) :
    InOrder front back (ts.flatMap (Token.leaves depth)) := by
  rw [← flatMap_leaves_wordsOf]
  exact .flatMap h.starts h.stops h.ordered fun t ht =>
    inOrder_leaves_of_sound (h.sound t ht) (h.words t ht) (hlines t (mem_wordsOf.1 ht).1) depth

end Python
end DeclSearch
