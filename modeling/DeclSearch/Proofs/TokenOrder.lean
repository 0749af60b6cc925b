/-
# The order of tokens

The lexer goes through a text from its start to its end and takes one token behind the other, so
no token starts in front of the place where the one before it stops (`found_tokensAt`).  A token
passes the text that writes it, which is not empty and does not end in a line feed, so it stands on
the lines that hold something else (`within_tokensAt`).

What a token is made of is kept with its extent (`Token.Sound`): a name is the normal form of an
identifier that takes the octets of the token (`Spelling`), so it is a part for a dotted name and
shorter than twice as many octets (`Token.Sound.name`), and the text of a literal stands inside the
token.
-/

import DeclSearch.Proofs.Cursors
import DeclSearch.Proofs.NormalForm
import DeclSearch.Proofs.NumberOctets
import Mathlib.Data.List.TakeWhile

namespace DeclSearch
namespace Python

/-- Whether a word only marks the layout. -/
def Word.isLayout : Word → Bool
  | .newline | .indent | .dedent | .finish => true
  | _ => false

/-- An identifier on a line of a text, which starts behind some octets of the line, and of which a
name is the normal form. -/
structure Spelling (name : String) where
  line : Nat
  first : Nat
  letters : List Char
  isIdentifier : Text.isIdentifier letters
  normalForm_eq : Text.normalForm (String.ofList letters) = name

/-- Where an identifier starts, the column counted in octets. -/
def Spelling.start {name : String} (sp : Spelling name) : Position := ⟨sp.line, sp.first⟩

/-- Where an identifier stops. -/
def Spelling.stop {name : String} (sp : Spelling name) : Position :=
  ⟨sp.line, sp.first + Text.encodedSize sp.letters⟩

/-- A name is a part for a dotted name, and shorter than twice the octets of the identifier. -/
theorem Spelling.isComponent_and_length_lt {name : String} (sp : Spelling name) :
    Text.IsComponent name ∧ name.length < 2 * Text.encodedSize sp.letters := by
  obtain ⟨hcomponent, hlength⟩ := Text.normalForm_of_isIdentifier sp.isIdentifier
  rw [sp.normalForm_eq] at hcomponent hlength
  rw [← Text.encodedSize_eq_sum] at hlength
  exact ⟨hcomponent, hlength⟩

/-- What is true of a token that the lexer has found, by its word: it takes some text, a name is
written with an identifier that takes this text, and a literal stands inside. -/
structure Token.Sound (t : Token) : Prop where
  start_lt : t.word.isLayout = false → t.start.place < t.stop.place
  spelled : ∀ id plain, t.word = .name id plain →
    ∃ sp : Spelling id, sp.start = t.start ∧ sp.stop = t.stop
  literal : ∀ l, t.word = .string l →
    t.start.place ≤ l.start.place ∧ (l.start.after l.body).place ≤ t.stop.place

/-- A name is a part for a dotted name, and shorter than twice the octets of its token. -/
theorem Token.Sound.name {t : Token} (h : t.Sound) (id : String) (plain : Bool)
    (hw : t.word = .name id plain) : Text.IsComponent id ∧
      t.stop.line = t.start.line ∧ 2 * t.start.column + id.length < 2 * t.stop.column := by
  obtain ⟨sp, hstart, hstop⟩ := h.spelled id plain hw
  obtain ⟨hcomponent, hlength⟩ := sp.isComponent_and_length_lt
  rw [← hstart, ← hstop]
  refine ⟨hcomponent, rfl, ?_⟩
  unfold Spelling.start Spelling.stop
  dsimp only
  omega

namespace Lexer

/-- A word that is neither a name nor a literal. -/
theorem sound_of_passes {w : Word} {c stop : Cursor} (h : c.Passes stop)
    (hname : ∀ id plain, w ≠ .name id plain) (hliteral : ∀ l, w ≠ .string l) :
    Token.Sound ⟨w, c.place, stop.place⟩ :=
  ⟨fun _ => h.place_lt, fun id plain hw => absurd hw (hname id plain),
    fun l hw => absurd hw (hliteral l)⟩

/-- An octet of ASCII that may continue a name may be a part of an identifier, and if it is no digit
it may start one. -/
theorem isIdentifierLetter_of_isNameOctet {c : Char} (hascii : c.toNat < 128)
    (h : Number.isNameOctet c) :
    Text.isIdentifierPart c ∧ (c.isDigit = false → Text.isIdentifierStart c) := by
  have hletter : c.isAlphanum = true ∨ c = '_' := by
    simpa [Number.isNameOctet, Nat.not_le.2 hascii] using h
  rw [Text.isIdentifierPart, Text.isIdentifierStart, if_pos hascii, if_pos hascii]
  refine ⟨by simpa using hletter, fun hdigit => ?_⟩
  simpa [Char.isAlphanum, hdigit] using hletter

/-- **Names.**  The name that octets make is the normal form of an identifier that takes them. -/
theorem exists_letters_of_nameWord? {octets : List Char} {first : Char}
    (hfirst : octets.head? = some first) (hdigit : first.isDigit = false)
    (hoctets : ∀ c ∈ octets, Number.isNameOctet c) {id : String} {plain : Bool}
    (h : nameWord? octets = some (.name id plain)) :
    ∃ letters, Text.isIdentifier letters ∧ Text.normalForm (String.ofList letters) = id ∧
      Text.encodedSize letters = octets.length := by
  unfold nameWord? at h
  split at h
  · -- Some octet is not ASCII: the letters are what the octets encode.
    obtain ⟨cs, hcs, h⟩ := Option.bind_eq_some_iff.1 h
    split at h
    · next hidentifier =>
      obtain ⟨rfl, -⟩ := Word.name.inj (Option.some.inj h)
      exact ⟨cs, hidentifier, rfl, Text.encodedSize_eq hcs⟩
    · exact nomatch h
  · next hhigh =>
    -- All octets are ASCII: they are the letters, and their normal form.
    dsimp only at h
    split at h
    · exact nomatch h
    · obtain ⟨rfl, -⟩ := Word.name.inj (Option.some.inj h)
      have hascii := Text.forall_lt_of_not_isHigh hhigh
      have hletters {c : Char} (hc : c ∈ octets) :=
        isIdentifierLetter_of_isNameOctet (hascii c hc) (hoctets c hc)
      refine ⟨octets, ?_, ?_, (Text.encodedSize_eq_length_iff octets).2 hascii⟩
      · obtain ⟨rest, rfl⟩ := List.head?_eq_some_iff.1 hfirst
        rw [Text.isIdentifier, Bool.and_eq_true, List.all_eq_true]
        exact ⟨(hletters List.mem_cons_self).2 hdigit,
          fun c hc => (hletters (List.mem_cons_of_mem _ hc)).1⟩
      · exact Text.normalForm_of_ascii hascii

/-- The word that a name makes is no literal. -/
theorem nameWord?_ne_string {octets : List Char} {w : Word} (h : nameWord? octets = some w)
    (l : Literal) : w ≠ .string l := by
  rintro rfl
  unfold nameWord? at h
  split at h
  · obtain ⟨cs, -, h⟩ := Option.bind_eq_some_iff.1 h
    split at h
    · exact nomatch h
    · exact nomatch h
  · dsimp only at h
    split at h
    · exact nomatch h
    · exact nomatch h

/-- A word made of the octets of a name. -/
theorem passes_name {c stop : Cursor} {first : Char} (hfirst : c.rest.head? = some first)
    (hname : Number.isNameOctet first) (hdigit : first.isDigit = false) {w : Word}
    (h : nameWord? (c.rest.takeWhile Number.isNameOctet) = some w)
    (hstop : stop = c.skip (c.rest.takeWhile Number.isNameOctet).length) :
    c.Passes stop ∧ Token.Sound ⟨w, c.place, stop.place⟩ := by
  subst hstop
  have hoctets : ∀ o ∈ c.rest.takeWhile Number.isNameOctet, Number.isNameOctet o :=
    fun o ho => List.mem_takeWhile_imp ho
  have hhead : (c.rest.takeWhile Number.isNameOctet).head? = some first := by
    obtain ⟨rest, hrest⟩ := List.head?_eq_some_iff.1 hfirst
    simp [hrest, hname]
  have hne : c.rest.takeWhile Number.isNameOctet ≠ [] := fun hnil => by simp [hnil] at hhead
  have hfeed : '\n' ∉ c.rest.takeWhile Number.isNameOctet :=
    fun hmem => absurd (hoctets _ hmem) (by decide)
  have hpasses : c.Passes (c.skip (c.rest.takeWhile Number.isNameOctet).length) :=
    .of_notMem (c.reads_skip List.takeWhile_append_dropWhile.symm hfeed) hne hfeed
  refine ⟨hpasses, fun _ => hpasses.place_lt, fun id plain hw => ?_, fun l hw => ?_⟩
  · obtain rfl : w = .name id plain := hw
    obtain ⟨letters, hidentifier, hnormal, hsize⟩ :=
      exists_letters_of_nameWord? hhead hdigit hoctets h
    refine ⟨⟨c.place.line, c.place.column, letters, hidentifier, hnormal⟩, rfl, ?_⟩
    rw [Spelling.stop, hsize]
    rfl
  · exact absurd hw (nameWord?_ne_string h l)

/-- The text of a string literal in one line is followed by a closing quote. -/
theorem exists_of_closedInLine {quote : Char} {size k : Nat} {cs : List Char}
    (h : closedInLine quote size cs = some k) :
    ∃ taken behind, cs = taken ++ quote :: behind ∧ k = size + taken.length := by
  fun_induction closedInLine quote size cs with
  | case1 => exact nomatch h
  | case2 size c rest ih =>
    obtain ⟨taken, behind, rfl, rfl⟩ := ih h
    exact ⟨'\\' :: c :: taken, behind, rfl, by simp; omega⟩
  | case3 size rest => exact ⟨[], rest, rfl, (Option.some.inj h).symm⟩
  | case4 => exact nomatch h
  | case5 size c rest _ _ _ ih =>
    obtain ⟨taken, behind, rfl, rfl⟩ := ih h
    exact ⟨c :: taken, behind, rfl, by simp; omega⟩

/-- The text of a string literal in three quotes is followed by three of them. -/
theorem exists_of_closedByThree {quote : Char} {size k : Nat} {cs : List Char}
    (h : closedByThree quote size cs = some k) :
    ∃ taken behind, cs = taken ++ (List.replicate 3 quote ++ behind) ∧ k = size + taken.length := by
  fun_induction closedByThree quote size cs with
  | case1 => exact nomatch h
  | case2 size c rest ih =>
    obtain ⟨taken, behind, rfl, rfl⟩ := ih h
    exact ⟨'\\' :: c :: taken, behind, rfl, by simp; omega⟩
  | case3 size c rest _ hquotes =>
    obtain ⟨behind, hbehind⟩ := List.isPrefixOf_iff_prefix.1 hquotes
    exact ⟨[], _, hbehind.symm, (Option.some.inj h).symm⟩
  | case4 size c rest _ _ ih =>
    obtain ⟨taken, behind, rfl, rfl⟩ := ih h
    exact ⟨c :: taken, behind, rfl, by simp; omega⟩

/-- The text of a string literal between quotes. -/
theorem passes_quoted {c : Cursor} {quote : Char} (hquote : quote ≠ '\n') (width : Nat)
    (hwidth : 0 < width) {taken behind : List Char}
    (hrest : c.rest =
      List.replicate width quote ++ (taken ++ (List.replicate width quote ++ behind))) :
    c.Passes (Cursor.skip ⟨(c.skip width).place.after taken,
      List.replicate width quote ++ behind⟩ width) ∧
    c.place.place ≤ (c.skip width).place.place ∧
    ((c.skip width).place.after taken).place ≤ (Cursor.skip ⟨(c.skip width).place.after taken,
      List.replicate width quote ++ behind⟩ width).place.place := by
  have hfeed : '\n' ∉ List.replicate width quote := fun hmem =>
    hquote (List.eq_of_mem_replicate hmem).symm
  have hopen := c.reads_skip hrest hfeed
  rw [List.length_replicate] at hopen
  have hinner : (c.skip width).rest = taken ++ (List.replicate width quote ++ behind) :=
    List.append_cancel_left (hopen.rest.symm.trans hrest)
  have hbody : (c.skip width).Reads taken
      ⟨(c.skip width).place.after taken, List.replicate width quote ++ behind⟩ :=
    ⟨hinner, rfl⟩
  have hclose := Cursor.reads_skip ⟨(c.skip width).place.after taken,
    List.replicate width quote ++ behind⟩ rfl hfeed
  rw [List.length_replicate] at hclose
  refine ⟨?_, hopen.place_le, hclose.place_le⟩
  obtain ⟨n, rfl⟩ : ∃ n, width = n + 1 := ⟨width - 1, by omega⟩
  refine ⟨List.replicate (n + 1) quote ++ taken ++ List.replicate n quote, quote, hquote, ?_⟩
  have hread := (hopen.trans hbody).trans hclose
  rwa [List.append_assoc _ (List.replicate n quote) [quote], ← List.replicate_succ']

/-- **String literals.**  A literal passes its quotes and the text between them. -/
theorem passes_string? {letters : List Char} {c stop : Cursor} {l : Literal}
    (h : string? letters c = some (l, stop)) (hquote : c.rest.head? ≠ some '\n') :
    c.Passes stop ∧ c.place.place ≤ l.start.place ∧
      (l.start.after l.body).place ≤ stop.place.place := by
  obtain ⟨quote, hhead, h⟩ := Option.bind_eq_some_iff.1 h
  have hne : quote ≠ '\n' := fun h => hquote (h ▸ hhead)
  dsimp only at h
  split at h
  · next hthree =>
    obtain ⟨size, hsize, h⟩ := Option.bind_eq_some_iff.1 h
    obtain ⟨taken, behind, hinner, rfl⟩ := exists_of_closedByThree hsize
    obtain ⟨rest, hrest⟩ := List.isPrefixOf_iff_prefix.1 hthree
    obtain rfl : rest = taken ++ (List.replicate 3 quote ++ behind) := by
      rw [← hinner, Cursor.skip, ← hrest, List.drop_left' (by simp)]
    rw [Nat.zero_add, hinner, List.take_left, List.drop_left] at h
    obtain ⟨rfl, rfl⟩ := Prod.mk.inj (Option.some.inj h)
    exact passes_quoted hne 3 (by decide) hrest.symm
  · obtain ⟨size, hsize, h⟩ := Option.bind_eq_some_iff.1 h
    obtain ⟨taken, behind, hinner, rfl⟩ := exists_of_closedInLine hsize
    obtain ⟨rest, hrest⟩ := List.head?_eq_some_iff.1 hhead
    obtain rfl : rest = taken ++ quote :: behind := by
      rw [← hinner, Cursor.skip, hrest, List.drop_one, List.tail_cons]
    rw [Nat.zero_add, hinner, List.take_left, List.drop_left] at h
    obtain ⟨rfl, rfl⟩ := Prod.mk.inj (Option.some.inj h)
    exact passes_quoted hne 1 (by decide) hrest

/-- A string literal as a token, perhaps behind letters. -/
theorem sound_stringToken {letters front : List Char} {c middle stop : Cursor} {l : Literal}
    (hfront : c.Reads front middle) (h : string? letters middle = some (l, stop))
    (hquote : middle.rest.head? ≠ some '\n') :
    c.Passes stop ∧ Token.Sound ⟨.string l, c.place, stop.place⟩ := by
  obtain ⟨⟨taken, last, hlast, hread⟩, hstart, hstop⟩ := passes_string? h hquote
  have hpasses : c.Passes stop :=
    ⟨front ++ taken, last, hlast, by simpa using hfront.trans hread⟩
  refine ⟨hpasses, fun _ => hpasses.place_lt, fun _ _ hw => (nomatch hw), fun l' hw => ?_⟩
  obtain rfl := Word.string.inj hw
  exact ⟨hfront.place_le.trans hstart, hstop⟩

/-- No sign is empty or goes over the end of a line. -/
theorem notMem_signs : ∀ text ∈ signs, text ≠ "" ∧ '\n' ∉ text.toList := by
  decide +kernel

/-- A sign. -/
theorem passes_sign? {c : Cursor} {text : String} (h : sign? c.rest = some text) :
    c.Passes (c.skip text.length) := by
  unfold sign? at h
  have hprefix : text.toList.isPrefixOf c.rest := (List.find?_eq_some_iff_append.1 h).1
  obtain ⟨rest, hrest⟩ := List.isPrefixOf_iff_prefix.1 hprefix
  obtain ⟨hne, hfeed⟩ := notMem_signs text (List.mem_of_find?_eq_some h)
  have hread := c.reads_skip hrest.symm hfeed
  rw [String.length_toList] at hread
  exact .of_notMem hread (by simpa using hne) hfeed

/-- **Words.** A word passes the text that writes it. It is a name, a string literal with or without
letters in front, a number or a sign, and in each case the cursor behind it is that of the reader of
such words. -/
theorem sound_word? {brackets brackets' : List Char} {c stop : Cursor} {w : Word}
    (h : word? brackets c = some (w, brackets', stop)) (hhead : c.rest.head? ≠ some '\n') :
    c.Passes stop ∧ Token.Sound ⟨w, c.place, stop.place⟩ := by
  obtain ⟨first, hfirst, h⟩ := Option.bind_eq_some_iff.1 h
  split at h
  · next hname =>
    -- a name, or the letters in front of a string
    obtain ⟨hname, hdigit⟩ := Bool.and_eq_true_iff.1 hname
    dsimp only at h
    split at h
    · next hquote =>
      obtain ⟨⟨l, stop⟩, hl, h⟩ := Option.bind_eq_some_iff.1 h
      obtain ⟨rfl, -, rfl⟩ := by simpa using h
      have hfeed : '\n' ∉ c.rest.takeWhile Number.isNameOctet :=
        fun hmem => absurd (List.mem_takeWhile_imp hmem) (by decide)
      refine sound_stringToken (c.reads_skip List.takeWhile_append_dropWhile.symm hfeed) hl
        fun hfeed => ?_
      rw [hfeed] at hquote
      exact absurd hquote (by simp)
    · obtain ⟨w, hw, h⟩ := Option.bind_eq_some_iff.1 h
      obtain ⟨rfl, -, rfl⟩ := by simpa using h
      exact passes_name hfirst hname (by simpa using hdigit) hw rfl
  · split at h
    · -- a string without letters
      obtain ⟨⟨l, stop⟩, hl, h⟩ := Option.bind_eq_some_iff.1 h
      obtain ⟨rfl, -, rfl⟩ := by simpa using h
      exact sound_stringToken (.refl c) hl hhead
    · split at h
      · -- a number
        obtain ⟨scan, hscan, h⟩ := Option.bind_eq_some_iff.1 h
        obtain ⟨rfl, -, rfl⟩ := by simpa using h
        obtain ⟨hpos, hle, hfeed⟩ := Number.clear_of_scan? hscan
        have hread := c.reads_skip (List.take_append_drop scan.size c.rest).symm hfeed
        rw [List.length_take, Nat.min_eq_left hle] at hread
        have hpasses : c.Passes (c.skip scan.size) := by
          refine .of_notMem hread (fun hnil => ?_) hfeed
          have hlength := congrArg List.length hnil
          rw [List.length_take, List.length_nil] at hlength
          omega
        refine ⟨hpasses, sound_of_passes hpasses (fun _ _ => ?_) fun _ => ?_⟩ <;> split <;> nofun
      · -- a sign
        obtain ⟨text, htext, h⟩ := Option.bind_eq_some_iff.1 h
        obtain ⟨nested, -, h⟩ := Option.bind_eq_some_iff.1 h
        obtain ⟨rfl, -, rfl⟩ := by simpa using h
        have hpasses := passes_sign? htext
        exact ⟨hpasses, sound_of_passes hpasses (fun _ _ => nofun) fun _ => nofun⟩

/-- Reading an indentation goes on in the text. -/
theorem exists_reads_readMargin {place : Position} {margin : Margin} {fixed : Nat}
    {cs : List Char} {m : Margin} {c : Cursor}
    (h : readMargin place margin fixed cs = some (m, c)) :
    ∃ taken, Cursor.Reads ⟨place, cs⟩ taken c := by
  fun_induction readMargin place margin fixed cs with
  | case1 place margin fixed rest ih =>
    obtain ⟨taken, hread⟩ := ih h
    exact ⟨' ' :: taken, hread.cons rfl⟩
  | case2 place margin fixed rest ih =>
    obtain ⟨taken, hread⟩ := ih h
    exact ⟨'\t' :: taken, hread.cons rfl⟩
  | case3 place margin fixed rest ih =>
    obtain ⟨taken, hread⟩ := ih h
    exact ⟨'\x0c' :: taken, hread.cons rfl⟩
  | case4 => cases h
  | case5 place margin fixed rest hrest ih =>
    obtain ⟨taken, hread⟩ := ih h
    exact ⟨'\\' :: '\n' :: taken, (hread.cons rfl).cons rfl⟩
  | case6 => cases h
  | case7 place margin cs =>
    obtain ⟨-, rfl⟩ := Prod.mk.inj (Option.some.inj h)
    exact ⟨[], .refl _⟩

/-- An indentation is told by words of the layout only. -/
theorem isLayout_of_mem_openMargins {margin : Margin} {margins stay : List Margin}
    {words : List Word} (h : openMargins margin margins = some (words, stay)) :
    ∀ w ∈ words, w.isLayout := by
  unfold openMargins at h
  dsimp only at h
  split at h
  · -- The line stands at a margin that is open, and those inside of it end.
    split at h
    · obtain ⟨rfl, -⟩ := by simpa using h
      simp [Word.isLayout]
    · exact nomatch h
  · split at h
    · exact nomatch h
    · -- The line opens a margin of its own.
      split at h
      · exact nomatch h
      · obtain ⟨rfl, -⟩ := by simpa using h
        simp [Word.isLayout]

/-- What the lexer has found on the way from the start of a text to a cursor (last token first): the
tokens stand there one behind the other, and none of them ends in a line feed. -/
structure Found (start c : Cursor) (done : List Token) : Prop where
  reads : ∃ taken, start.Reads taken c
  sound : ∀ t ∈ done, t.Sound
  starts : ∀ t ∈ done, start.place.place ≤ t.start.place ∧ t.start.place ≤ t.stop.place
  stops : ∀ t ∈ done, t.stop.place ≤ c.place.place
  inside : ∀ t ∈ done, t.word.isLayout = false →
    ∃ stop, start.Passes stop ∧ t.stop = stop.place
  ordered : done.Pairwise fun b a => a.stop.place ≤ b.start.place

variable {start c stop : Cursor} {done : List Token}

/-- Going on without a token. -/
theorem Found.pass (h : Found start c done) {taken : List Char} (hread : c.Reads taken stop) :
    Found start stop done := by
  obtain ⟨front, hfront⟩ := h.reads
  exact ⟨⟨_, hfront.trans hread⟩, h.sound, h.starts,
    fun t ht => (h.stops t ht).trans hread.place_le, h.inside, h.ordered⟩

/-- A token of the layout takes no text. -/
theorem Found.layout (h : Found start c done) {w : Word} (hw : w.isLayout) :
    Found start c (⟨w, c.place, c.place⟩ :: done) := by
  obtain ⟨front, hfront⟩ := h.reads
  refine ⟨h.reads, List.forall_mem_cons.2 ⟨⟨?_, ?_, ?_⟩, h.sound⟩,
    List.forall_mem_cons.2 ⟨⟨hfront.place_le, le_refl _⟩, h.starts⟩,
    List.forall_mem_cons.2 ⟨le_refl _, h.stops⟩,
    List.forall_mem_cons.2 ⟨fun hlayout => ?_, h.inside⟩,
    List.pairwise_cons.2 ⟨h.stops, h.ordered⟩⟩
  · exact fun hlayout => absurd hw (by simpa using hlayout)
  · rintro id plain rfl
    exact nomatch hw
  · rintro l rfl
    exact nomatch hw
  · exact absurd hw (by simpa using hlayout)

/-- Tokens of the layout, all in one place. -/
theorem Found.layouts (h : Found start c done) {words : List Word}
    (hwords : ∀ w ∈ words, w.isLayout) :
    Found start c ((words.map fun w => ⟨w, c.place, c.place⟩) ++ done) := by
  induction words with
  | nil => exact h
  | cons w words ih =>
    obtain ⟨hw, hwords⟩ := List.forall_mem_cons.1 hwords
    exact (ih hwords).layout hw

/-- A token that passes the text that writes it. -/
theorem Found.word (h : Found start c done) {w : Word} (hpasses : c.Passes stop)
    (hsound : Token.Sound ⟨w, c.place, stop.place⟩) :
    Found start stop (⟨w, c.place, stop.place⟩ :: done) := by
  obtain ⟨front, hfront⟩ := h.reads
  obtain ⟨taken, last, hlast, hread⟩ := hpasses
  have hend : start.Passes stop :=
    ⟨front ++ taken, last, hlast, by simpa using hfront.trans hread⟩
  refine ⟨⟨_, hfront.trans hread⟩, List.forall_mem_cons.2 ⟨hsound, h.sound⟩,
    List.forall_mem_cons.2 ⟨⟨hfront.place_le, hread.place_le⟩, h.starts⟩,
    List.forall_mem_cons.2 ⟨le_refl _, fun t ht => (h.stops t ht).trans hread.place_le⟩,
    List.forall_mem_cons.2 ⟨fun _ => ⟨stop, hend, rfl⟩, h.inside⟩,
    List.pairwise_cons.2 ⟨h.stops, h.ordered⟩⟩

/-- Going on behind the blanks in front of a word. -/
theorem reads_spaces (c : Cursor) :
    c.Reads (c.rest.takeWhile isSpace) (c.skip (c.rest.takeWhile isSpace).length) :=
  c.reads_skip List.takeWhile_append_dropWhile.symm fun hmem =>
    absurd (List.mem_takeWhile_imp hmem) (by decide)

/-- Going on behind a comment. -/
theorem reads_comment {c : Cursor} {rest : List Char} (hrest : c.rest = '#' :: rest) :
    c.Reads ('#' :: rest.takeWhile (· ≠ '\n'))
      (c.skip ((rest.takeWhile (· ≠ '\n')).length + 1)) := by
  have hfeed : '\n' ∉ '#' :: rest.takeWhile (· ≠ '\n') := by
    rw [List.mem_cons, not_or]
    exact ⟨by decide, fun hmem => absurd (List.mem_takeWhile_imp hmem) (by decide)⟩
  have hsplit : c.rest = ('#' :: rest.takeWhile (· ≠ '\n')) ++ rest.dropWhile (· ≠ '\n') := by
    rw [hrest, List.cons_append, List.takeWhile_append_dropWhile]
  exact c.reads_skip hsplit hfeed

/-- **The lexer** finds its tokens one behind the other. Every turn of its loop passes an
indentation, blanks, a comment or the end of a line, or it finds a word, and `Found` is kept by each
of them. -/
theorem found_run {fuel : Nat} {state : State} {ts : List Token} {c : Cursor}
    (h : run fuel state c done = .ok ts) (hfound : Found start c done) :
    ∃ stop, Found start stop ts.reverse := by
  fun_induction run fuel state c done with
  | case3 fuel state c done _ margin behind hmargin _ _ _ ih =>
    obtain ⟨taken, hread⟩ := exists_reads_readMargin hmargin
    exact ih h (hfound.pass hread)
  | case5 fuel state c done _ margin behind hmargin _ _ _ words margins hwords _ ih =>
    obtain ⟨taken, hread⟩ := exists_reads_readMargin hmargin
    exact ih h ((hfound.pass hread).layouts (isLayout_of_mem_openMargins hwords))
  | case6 fuel state before done _ c =>
    rw [← Except.ok.inj h, List.reverse_reverse]
    exact ⟨c, (hfound.pass (reads_spaces before)).layout rfl⟩
  | case8 fuel state before done _ c rest hrest ih =>
    exact ih h ((hfound.pass (reads_spaces before)).pass (reads_comment hrest))
  | case9 fuel state before done _ c rest hrest _ _ _ ih =>
    exact ih h ((hfound.pass (reads_spaces before)).pass (c.reads_feed [] List.not_mem_nil hrest))
  | case10 fuel state before done _ c rest hrest _ _ _ ih =>
    exact ih h (((hfound.pass (reads_spaces before)).layout rfl).pass
      (c.reads_feed [] List.not_mem_nil hrest))
  | case12 fuel state before done _ c more _ hrest ih =>
    exact ih h ((hfound.pass (reads_spaces before)).pass (c.reads_feed ['\\'] (by decide) hrest))
  | case15 fuel state before done _ c word brackets stop hword _ _ hfeed _ ih =>
    have hhead : c.rest.head? ≠ some '\n' := fun hhead =>
      (List.head?_eq_some_iff.1 hhead).elim fun rest hrest => hfeed rest hrest
    obtain ⟨hpasses, hsound⟩ := sound_word? hword hhead
    exact ih h ((hfound.pass (reads_spaces before)).word hpasses hsound)
  | case1 | case2 | case4 | case7 | case11 | case13 | case14 => cases h

/-- **Tokens** stand one behind the other in their text. -/
theorem found_tokensAt {place : Position} {source : List Char} {ts : List Token}
    (h : tokensAt place source = .ok ts) : ∃ stop, Found ⟨place, source⟩ stop ts.reverse :=
  found_run h ⟨⟨[], .refl _⟩, by simp, by simp, by simp, by simp, .nil⟩

end Lexer

/-! ### The lines of tokens -/

/-- Whether a literal starts and ends on one of the first `n` lines. -/
def Literal.Within (n : Nat) (l : Literal) : Prop := Cursor.EndsBy n ⟨l.start, l.body⟩

/-- Whether a token, unless it only marks the layout, is on the first `n` lines, and so is
its literal if it is one. -/
structure Token.Within (n : Nat) (t : Token) : Prop where
  start : t.word.isLayout = false → t.start.Within n
  stop : t.word.isLayout = false → t.stop.Within n
  literal : ∀ l, t.word = .string l → l.Within n

namespace Lexer

variable {n : Nat}

/-- **The lines of tokens.**  What the lexer has found on its way from a place of a text that is on
the first `n` lines on is on these lines. -/
theorem Found.within (h : Found start c done) (hstart : start.Within n) :
    ∀ t ∈ done, t.Within n := by
  intro t ht
  have hwithin (hw : t.word.isLayout = false) : t.start.Within n ∧ t.stop.Within n := by
    obtain ⟨stop, hpasses, hstop⟩ := h.inside t ht hw
    have hle : t.stop.line ≤ n := hstop ▸ hpasses.line_le hstart
    obtain ⟨hfront, hplace⟩ := h.starts t ht
    have hone := hstart.one_le.trans (Position.line_le_of_place_le hfront)
    have hline := Position.line_le_of_place_le hplace
    exact ⟨⟨hone, hline.trans hle⟩, hone.trans hline, hle⟩
  refine ⟨fun hw => (hwithin hw).1, fun hw => (hwithin hw).2, fun l hl => ?_⟩
  -- The text of a literal stands between the places where its token starts and stops.
  obtain ⟨hone, hle⟩ := hwithin (by rw [hl]; rfl)
  obtain ⟨hfront, hback⟩ := (h.sound t ht).literal l hl
  have hbody := Position.line_le_of_place_le hback
  rw [Position.line_after] at hbody
  exact ⟨hone.1.trans (Position.line_le_of_place_le hfront), hbody.trans hle.2⟩

/-- The tokens of a text whose lines are among the first `n`. -/
theorem within_tokensAt {place : Position} {source : List Char} {ts : List Token}
    (h : tokensAt place source = .ok ts) (hc : Cursor.Within n ⟨place, source⟩) :
    ∀ t ∈ ts, t.Within n := by
  obtain ⟨stop, hfound⟩ := found_tokensAt h
  exact fun t ht => hfound.within hc t (List.mem_reverse.2 ht)

end Lexer
end Python
end DeclSearch
