/-
# Where a shape occurs, the name stands

An occurrence of a shape cuts a line into the text in front, what leads up to the name, the name,
what belongs to the shape behind it, and the rest (`Shape.Occurrence`).  There are two ways in which
a name can stand in a line so as to be declared: behind a keyword
(`Shape.Occurrence.FollowsWord`), or in front of a mark (`Shape.Occurrence.PrecedesMark`).

Whether a sign fits at the start of a text is found by dropping words from the front of the text,
letter for letter up to case (`Shape.dropWord?_eq_some_iff`), and by trying the name behind all of
the blanks, then behind one less, and so on (`Shape.nameBehind_of_nameBehindBlanks`,
`Shape.exists_nameBehindBlanks`).  A sign that fits has the name where it says
(`Shape.Sign.exists_occurrence_of_fit?`), and it fits wherever the name stands as it asks for
(`Shape.Sign.exists_fit?_eq_some`).
-/

import DeclSearch.Shape
import Mathlib.Data.List.Forall2
import Mathlib.Data.List.TakeWhile

namespace DeclSearch

/-- Whether a word boundary lies between two parts of a text. -/
def Text.BoundaryBetween (front back : List Char) : Prop :=
  isBoundary front.getLast? back.head? = true

instance (front back : List Char) : Decidable (Text.BoundaryBetween front back) :=
  inferInstanceAs (Decidable (_ = true))

namespace Shape

open Text (BoundaryBetween isBlank isBoundary sameLetter)

/-- Whether two texts agree letter for letter, up to case. -/
def SameLetters (word found : List Char) : Prop :=
  List.Forall₂ (fun w c => sameLetter w c) word found

/-- A word is taken off if the text starts with its letters, in any case. -/
theorem dropWord?_eq_some_iff {word cs rest : List Char} :
    dropWord? word cs = some rest ↔ ∃ found, cs = found ++ rest ∧ SameLetters word found := by
  induction word generalizing cs with
  | nil =>
    constructor
    · intro h
      exact ⟨[], Option.some.inj h, .nil⟩
    · rintro ⟨_, rfl, ⟨⟩⟩
      rfl
  | cons w word ih =>
    rcases cs with _ | ⟨c, cs⟩
    · refine iff_of_false nofun ?_
      rintro ⟨found, hcs, hfound⟩
      obtain ⟨rfl, -⟩ := List.append_eq_nil_iff.1 hcs.symm
      exact nomatch hfound
    · rw [dropWord?]
      constructor
      · intro h
        split at h
        · next hc =>
          obtain ⟨found, rfl, hfound⟩ := ih.1 h
          exact ⟨c :: found, rfl, .cons hc hfound⟩
        · exact nomatch h
      · rintro ⟨found, hcs, hfound⟩
        cases hfound with
        | cons hc hfound =>
          obtain ⟨rfl, rfl⟩ := List.cons.inj hcs
          rw [if_pos hc]
          exact ih.2 ⟨_, rfl, hfound⟩

/-- An occurrence of a shape, with the parts of its line: the text in front, what leads up to the
name, the name, what belongs to the shape behind it, and the text further behind. -/
structure Occurrence where
  front : List Char
  lead : List Char
  name : List Char
  tail : List Char
  back : List Char

namespace Occurrence

/-- The line from the start of an occurrence on. -/
def rest (o : Occurrence) : List Char := o.lead ++ (o.name ++ (o.tail ++ o.back))

/-- The line of an occurrence. -/
def line (o : Occurrence) : List Char := o.front ++ o.rest

/-- The number of characters in front of an occurrence. -/
def start (o : Occurrence) : Nat := o.front.length

/-- The number of characters that an occurrence takes. -/
def size (o : Occurrence) : Nat := o.lead.length + o.name.length + o.tail.length

/-- The place behind an occurrence. -/
def stop (o : Occurrence) : Nat := o.start + o.size

/-- Whether a word stands before the name: the occurrence starts with it at a word boundary, one or
more blanks separate it from the name, and a word boundary follows the name. -/
structure FollowsWord (word : String) (o : Occurrence) : Prop where
  starts : BoundaryBetween o.front o.rest
  lead : ∃ found blanks, o.lead = found ++ blanks ∧ SameLetters word.toList found ∧
    blanks ≠ [] ∧ ∀ c ∈ blanks, isBlank c
  tail_eq : o.tail = []
  stops : BoundaryBetween (o.front ++ o.lead ++ o.name) o.back

/-- Whether a mark stands behind the name: the name starts at a word boundary, and nothing but
blanks separates it from the mark. -/
structure PrecedesMark (mark : Char) (o : Occurrence) : Prop where
  starts : BoundaryBetween o.front o.rest
  lead_eq : o.lead = []
  tail : ∃ blanks, o.tail = blanks ++ [mark] ∧ ∀ c ∈ blanks, isBlank c

end Occurrence

/-- Whether a name stands in a line as a sign asks for. -/
def Sign.Surrounds (o : Occurrence) : Sign → Prop
  | .before keywords => ∃ keyword ∈ keywords, o.FollowsWord keyword
  | .behind marks => ∃ mark ∈ marks, o.PrecedesMark mark

/-- Whether a word is made of small ASCII letters. -/
def isSmallWord (word : String) : Bool := !word.toList.isEmpty && word.toList.all Char.isLower

/-- A small word has letters, and all of them are small letters of ASCII. -/
theorem isSmallWord_iff {word : String} :
    isSmallWord word ↔ word.toList ≠ [] ∧ ∀ c ∈ word.toList, c.isLower := by
  simp [isSmallWord]

/-- Whether a sign is made of words in small letters, or of marks that are no blanks. -/
def Sign.isProper : Sign → Bool
  | .before keywords => keywords.all isSmallWord
  | .behind marks => marks.all fun mark => !isBlank mark

/-- The sign of every shape may stand behind a name. -/
theorem isProper_sign (shape : Shape) : shape.sign.isProper := by
  cases shape <;> decide

/-- Whether the name stands behind the first characters of a text, up to a word boundary. -/
def NameBehind (query cs : List Char) (count : Nat) (left : List Char) : Prop :=
  ∃ name, cs.drop count = name ++ left ∧ SameLetters query name ∧
    BoundaryBetween (cs.take count ++ name) left

/-- The query is taken off behind a character exactly if it is a name there. -/
theorem filter_dropWord?_eq_some_iff {query cs left : List Char} {count : Nat}
    (hcount : count < cs.length) :
    ((dropWord? query (cs.drop (count + 1))).filter fun left =>
        isBoundary (lastOr cs[count]? ((cs.drop (count + 1)).take query.length)) left.head?) =
          some left ↔ NameBehind query cs (count + 1) left := by
  have hlast (name : List Char) : lastOr cs[count]? name =
      (cs.take (count + 1) ++ name).getLast? := by
    rw [lastOr, List.getLast?_append, List.getLast?_take, if_neg (by omega), Nat.add_sub_cancel,
      List.getElem?_eq_getElem hcount, Option.some_or]
  have htake {name : List Char} (hdrop : cs.drop (count + 1) = name ++ left)
      (hsame : SameLetters query name) : (cs.drop (count + 1)).take query.length = name := by
    rw [hdrop, hsame.length_eq, List.take_left]
  rw [Option.filter_eq_some_iff, dropWord?_eq_some_iff]
  constructor
  · rintro ⟨⟨name, hdrop, hsame⟩, hboundary⟩
    rw [htake hdrop hsame, hlast] at hboundary
    exact ⟨name, hdrop, hsame, hboundary⟩
  · rintro ⟨name, hdrop, hsame, hboundary⟩
    refine ⟨⟨name, hdrop, hsame⟩, ?_⟩
    rwa [htake hdrop hsame, hlast]

/-- The name that is found behind blanks stands behind at least one and at most all of them. -/
theorem nameBehind_of_nameBehindBlanks {query cs left : List Char} {blanks count : Nat}
    (hblanks : blanks ≤ cs.length)
    (h : nameBehindBlanks query cs blanks = some (count, left)) :
    1 ≤ count ∧ count ≤ blanks ∧ NameBehind query cs count left := by
  induction blanks with
  | zero => exact nomatch h
  | succ blanks ih =>
    rw [nameBehindBlanks] at h
    split at h
    · next hfound =>
      obtain ⟨rfl, rfl⟩ := Prod.mk.inj (Option.some.inj h)
      exact ⟨by omega, Nat.le_refl _, (filter_dropWord?_eq_some_iff hblanks).1 hfound⟩
    · obtain ⟨hpos, hle, hname⟩ := ih (by omega) h
      exact ⟨hpos, by omega, hname⟩

/-- A name that stands behind some of the blanks is found, if not behind more of them. -/
theorem exists_nameBehindBlanks {query cs left : List Char} {blanks count : Nat}
    (hblanks : blanks ≤ cs.length) (hpos : 1 ≤ count) (hle : count ≤ blanks)
    (h : NameBehind query cs count left) :
    ∃ found, nameBehindBlanks query cs blanks = some found := by
  induction blanks with
  | zero => omega
  | succ blanks ih =>
    rw [nameBehindBlanks]
    split
    · exact ⟨_, rfl⟩
    · next hnone =>
      have hne : count ≠ blanks + 1 := by
        rintro rfl
        exact nomatch hnone.symm.trans ((filter_dropWord?_eq_some_iff hblanks).2 h)
      exact ih (by omega) (by omega)

/-- The match that an occurrence makes. -/
def Occurrence.fit (o : Occurrence) : Fit := ⟨o.size, o.lead.length, o.name.length⟩

/-- The blanks in front are no more than the text. -/
theorem length_takeWhile_le {cs : List Char} : (cs.takeWhile isBlank).length ≤ cs.length :=
  (List.takeWhile_sublist isBlank).length_le

/-- The first characters of a text are blanks as far as it starts with blanks. -/
theorem isBlank_of_mem_take {cs : List Char} {count : Nat}
    (hcount : count ≤ (cs.takeWhile isBlank).length) : ∀ c ∈ cs.take count, isBlank c := by
  intro c hc
  rw [← List.takeWhile_append_dropWhile (p := isBlank) (l := cs),
    List.take_append_of_le_length hcount] at hc
  exact List.mem_takeWhile_imp (List.mem_of_mem_take hc)

/-- What stands in front of the part that touches a boundary does not matter. -/
theorem boundaryBetween_append {front part back : List Char} (hpart : part ≠ []) :
    BoundaryBetween (front ++ part) back ↔ BoundaryBetween part back := by
  rw [BoundaryBetween, List.getLast?_append_of_ne_nil _ hpart, BoundaryBetween]

/-- What follows the part that touches a boundary does not matter. -/
theorem boundaryBetween_append_right {front part back : List Char} (hpart : part ≠ []) :
    BoundaryBetween front (part ++ back) ↔ BoundaryBetween front part := by
  rw [BoundaryBetween, List.head?_append_of_ne_nil _ hpart, BoundaryBetween]

/-- The occurrence that a word and a name behind it make. -/
theorem Occurrence.exists_followsWord {word : String} {query front found rest left : List Char}
    {count : Nat} (hstarts : BoundaryBetween front (found ++ rest))
    (hfound : SameLetters word.toList found)
    (hname : nameBehindBlanks query rest (rest.takeWhile isBlank).length = some (count, left)) :
    ∃ o : Occurrence, o.front = front ∧ o.rest = found ++ rest ∧ o.FollowsWord word ∧
      SameLetters query o.name ∧
      o.fit = ⟨word.length + count + query.length, word.length + count, query.length⟩ := by
  obtain ⟨hpos, hcount, name, hdrop, hsame, hstops⟩ :=
    nameBehind_of_nameBehindBlanks length_takeWhile_le hname
  have hlength : count ≤ rest.length := hcount.trans length_takeWhile_le
  have htake : rest.take count ≠ [] := by
    rw [← List.length_pos_iff, List.length_take]
    omega
  have hparts : found ++ rest.take count ++ (name ++ ([] ++ left)) = found ++ rest := by
    rw [List.nil_append, ← hdrop, List.append_assoc, List.take_append_drop]
  refine ⟨⟨front, found ++ rest.take count, name, [], left⟩, rfl, hparts,
    ⟨?_, ⟨found, rest.take count, rfl, hfound, htake, isBlank_of_mem_take hcount⟩, rfl, ?_⟩,
    hsame, ?_⟩
  · rwa [Occurrence.rest, hparts]
  · rwa [← List.append_assoc, List.append_assoc, boundaryBetween_append (by simp [htake])]
  · simp [Occurrence.fit, Occurrence.size, ← hfound.length_eq, ← hsame.length_eq, hlength,
      String.length_toList]

/-- The occurrence that a name and a mark behind it make. -/
theorem Occurrence.exists_precedesMark {mark : Char} {query front name rest : List Char}
    (hstarts : BoundaryBetween front (name ++ rest)) (hsame : SameLetters query name)
    (hmark : (rest.drop (rest.takeWhile isBlank).length).head? = some mark) :
    ∃ o : Occurrence, o.front = front ∧ o.rest = name ++ rest ∧ o.PrecedesMark mark ∧
      SameLetters query o.name ∧
      o.fit = ⟨query.length + (rest.takeWhile isBlank).length + 1, 0, query.length⟩ := by
  obtain ⟨back, hback⟩ := List.head?_eq_some_iff.1 hmark
  have hparts : name ++ (rest.takeWhile isBlank ++ [mark] ++ back) = name ++ rest := by
    rw [List.append_assoc, List.singleton_append, ← hback,
      List.prefix_iff_eq_append.1 (List.takeWhile_prefix isBlank)]
  refine ⟨⟨front, [], name, rest.takeWhile isBlank ++ [mark], back⟩, rfl, hparts,
    ⟨?_, rfl, _, rfl, fun c hc => List.mem_takeWhile_imp hc⟩, hsame, ?_⟩
  · rwa [Occurrence.rest, List.nil_append, hparts]
  · simp [Occurrence.fit, Occurrence.size, ← hsame.length_eq, Nat.add_assoc]

/-- **A sign that fits at the start of a text has the name where it says.** A keyword is found with
the blanks behind it, and the name behind these; a mark is found behind the name and the blanks
between them. -/
theorem Sign.exists_occurrence_of_fit? {sign : Sign} {query front cs : List Char} {fit : Fit}
    (h : sign.fit? query front.getLast? cs = some fit) :
    ∃ o : Occurrence, o.front = front ∧ o.rest = cs ∧ sign.Surrounds o ∧
      SameLetters query o.name ∧ o.fit = fit := by
  cases sign with
  | before keywords =>
    rw [fit?] at h
    split at h
    · next hstarts =>
      obtain ⟨keyword, hmem, hkeyword⟩ := List.exists_of_findSome?_eq_some h
      obtain ⟨rest, hrest, hbehind⟩ := Option.bind_eq_some_iff.1 hkeyword
      obtain ⟨⟨count, left⟩, hname, hfit⟩ := Option.bind_eq_some_iff.1 hbehind
      obtain ⟨found, rfl, hfound⟩ := dropWord?_eq_some_iff.1 hrest
      obtain rfl := Option.some.inj hfit
      obtain ⟨o, hfront, hcs, hfollows, hsame⟩ :=
        Occurrence.exists_followsWord hstarts hfound hname
      exact ⟨o, hfront, hcs, ⟨keyword, hmem, hfollows⟩, hsame⟩
    · exact nomatch h
  | behind marks =>
    rw [fit?] at h
    split at h
    · next hstarts =>
      obtain ⟨rest, hrest, hbehind⟩ := Option.bind_eq_some_iff.1 h
      obtain ⟨mark, hmark, hfit⟩ := Option.bind_eq_some_iff.1 hbehind
      obtain ⟨name, rfl, hfound⟩ := dropWord?_eq_some_iff.1 hrest
      split at hfit
      · next hmem =>
        obtain rfl := Option.some.inj hfit
        obtain ⟨o, hfront, hcs, hprecedes, hsame⟩ :=
          Occurrence.exists_precedesMark hstarts hfound hmark
        exact ⟨o, hfront, hcs, ⟨mark, by simpa using hmem, hprecedes⟩, hsame⟩
      · exact nomatch hfit
    · exact nomatch h

/-- **A sign fits wherever the name stands as it asks for.** The fit may be another one, as more
blanks are taken to stand in front of a name that starts with blanks. -/
theorem Sign.exists_fit?_eq_some {sign : Sign} (hproper : sign.isProper) {query : List Char}
    {o : Occurrence} (hsurrounds : sign.Surrounds o) (hsame : SameLetters query o.name) :
    ∃ fit, sign.fit? query o.front.getLast? o.rest = some fit := by
  cases sign with
  | before keywords =>
    obtain ⟨keyword, hmem, hstarts, ⟨found, blanks, hlead, hfound, hne, hblanks⟩, htail, hstops⟩ :=
      hsurrounds
    rw [BoundaryBetween] at hstarts
    have hdrop : dropWord? keyword.toList o.rest = some (blanks ++ (o.name ++ o.back)) :=
      dropWord?_eq_some_iff.2 ⟨found, by simp [Occurrence.rest, hlead, htail], hfound⟩
    have hname : NameBehind query (blanks ++ (o.name ++ o.back)) blanks.length o.back := by
      refine ⟨o.name, List.drop_left, hsame, ?_⟩
      rw [hlead, ← List.append_assoc, List.append_assoc,
        boundaryBetween_append (by simp [hne])] at hstops
      rwa [List.take_left]
    -- The name may start with blanks itself: these are taken for blanks in front of it first.
    have hcount : blanks.length ≤ ((blanks ++ (o.name ++ o.back)).takeWhile isBlank).length := by
      rw [List.takeWhile_append_of_pos hblanks, List.length_append]
      exact Nat.le_add_right _ _
    obtain ⟨⟨count, left⟩, hcounted⟩ := exists_nameBehindBlanks length_takeWhile_le
      (List.length_pos_iff.2 hne) hcount hname
    rw [fit?, if_pos hstarts, ← Option.isSome_iff_exists, List.findSome?_isSome_iff]
    exact ⟨keyword, hmem, by simp [hdrop, hcounted]⟩
  | behind marks =>
    obtain ⟨mark, hmem, hstarts, hlead, blanks, htail, hblanks⟩ := hsurrounds
    rw [BoundaryBetween] at hstarts
    have hdrop : dropWord? query o.rest = some (blanks ++ mark :: o.back) :=
      dropWord?_eq_some_iff.2 ⟨o.name, by simp [Occurrence.rest, hlead, htail], hsame⟩
    have hcount : (blanks ++ mark :: o.back).takeWhile isBlank = blanks := by
      have hmark := List.all_eq_true.1 hproper mark hmem
      rw [List.takeWhile_append_of_pos hblanks,
        List.takeWhile_cons_of_neg (by simpa using hmark), List.append_nil]
    rw [fit?, if_pos hstarts]
    simp [hdrop, hcount, hmem]

end Shape
end DeclSearch
