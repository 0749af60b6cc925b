/-
# Names in their own spelling

Where case matters, the occurrences of a name are listed as if it did not, and those that are not
spelled like the name are left out afterwards.  An occurrence in the name's own spelling that starts
inside of one that is listed is then missed, and no other is
(`Shape.declares_in_own_spelling_iff`).  That needs that occurrences with the same start have the
same name (`Shape.name_eq_of_start_eq`), although a name that starts with blanks could stand behind
more or fewer of the blanks in front of it.

An occurrence of most names cannot start inside of another one (`Shape.StandsAlone.not_covers`): the
name would have to hold a blank or a mark, or to end in one of the keywords, which then has the rest
of the other occurrence behind it.  The argument compares the places of the parts of the two
occurrences: parts without a character in common do not overlap (`Text.apart_of_disjoint`), and
there is no word boundary inside of a word (`Text.BoundaryBetween.not_inside`).
-/

import DeclSearch.Proofs.DeclaredLines
import DeclSearch.Proofs.LetterClasses
import DeclSearch.Proofs.Parts

namespace DeclSearch
namespace Text

/-- **There is no word boundary inside of a word.** -/
theorem BoundaryBetween.not_inside {front word back left right : List Char}
    (h : BoundaryBetween left right) (htext : front ++ (word ++ back) = left ++ right)
    (hword : ∀ c ∈ word, isWord c) :
    left.length ≤ front.length ∨ front.length + word.length ≤ left.length := by
  by_contra hinside
  obtain ⟨c, hc, hat⟩ := exists_mem_getElem? front word back (i := left.length - 1) (by omega)
    (by omega)
  obtain ⟨d, hd, hat'⟩ := exists_mem_getElem? front word back (i := left.length) (by omega)
    (by omega)
  rw [htext, List.getElem?_append_left (by omega), ← List.getLast?_eq_getElem?] at hat
  rw [htext, List.getElem?_append_right (Nat.le_refl _), Nat.sub_self, ← List.head?_eq_getElem?]
    at hat'
  simp [BoundaryBetween, isBoundary, hat, hat', hword c hc, hword d hd] at h

end Text

namespace Shape

open Text (BoundaryBetween apart_of_disjoint eq_of_append_cons_eq eq_of_sameLetter isBlank
  isBoundary isWord isWord_of_sameLetter not_isBlank_of_isLower)

/-- The letters that a word is compared with agree with its own. -/
theorem SameLetters.exists_of_mem {word found : List Char} (h : SameLetters word found) {c : Char}
    (hc : c ∈ found) : ∃ w ∈ word, Text.sameLetter w c := by
  induction h with
  | nil => exact nomatch hc
  | @cons w d word found hsame _ ih =>
    rcases List.mem_cons.1 hc with rfl | hc
    · exact ⟨w, List.mem_cons_self, hsame⟩
    · obtain ⟨v, hv, hvc⟩ := ih hc
      exact ⟨v, List.mem_cons_of_mem w hv, hvc⟩

/-- A word has the letters of itself. -/
theorem SameLetters.refl (word : List Char) : SameLetters word word :=
  List.forall₂_same.2 fun c _ => Text.sameLetter_self c

/-- A text that agrees with a name starts with the same blanks. -/
theorem SameLetters.takeWhile_isBlank {query name : List Char} (h : SameLetters query name) :
    name.takeWhile isBlank = query.takeWhile isBlank := by
  induction h with
  | nil => rfl
  | @cons w c query name hsame _ ih =>
    by_cases hblank : isBlank w ∨ isBlank c
    · obtain rfl := eq_of_sameLetter hsame hblank
      rw [List.takeWhile_cons, List.takeWhile_cons, ih]
    · rw [not_or] at hblank
      rw [List.takeWhile_cons_of_neg hblank.1, List.takeWhile_cons_of_neg hblank.2]

/-- A name of blanks has one spelling. -/
theorem SameLetters.eq_of_blank {query name : List Char} (h : SameLetters query name)
    (hquery : (query.takeWhile isBlank).length = query.length) : name = query := by
  have hblanks : query.takeWhile isBlank = query :=
    (List.takeWhile_prefix isBlank).eq_of_length hquery
  have hname := h.takeWhile_isBlank.trans hblanks
  have hfirst := List.takeWhile_prefix (l := name) isBlank
  rw [hname] at hfirst
  exact (hfirst.eq_of_length h.length_eq).symm

/-- Small letters in any spelling are word characters, and no blanks. -/
theorem SameLetters.isWord_of_isLower {word found : List Char} (h : SameLetters word found)
    (hlower : ∀ c ∈ word, c.isLower) : ∀ c ∈ found, isWord c ∧ ¬isBlank c := by
  intro c hc
  obtain ⟨w, hw, hsame⟩ := h.exists_of_mem hc
  refine ⟨isWord_of_sameLetter hsame (hlower w hw), fun hblank => ?_⟩
  obtain rfl := eq_of_sameLetter hsame (.inr hblank)
  exact not_isBlank_of_isLower (hlower w hw) hblank

/-- What starts with a word: its letters in some spelling, one or more blanks, and the name. -/
theorem Occurrence.FollowsWord.exists_parts {word : String} {o : Occurrence}
    (h : o.FollowsWord word) (hword : isSmallWord word) :
    ∃ found blanks, SameLetters word.toList found ∧ o.lead = found ++ blanks ∧
      o.rest = found ++ (blanks ++ (o.name ++ o.back)) ∧ found ≠ [] ∧ blanks ≠ [] ∧
      (∀ c ∈ found, isWord c ∧ ¬isBlank c) ∧ ∀ c ∈ blanks, isBlank c := by
  obtain ⟨-, ⟨found, blanks, hlead, hfound, hne, hblanks⟩, htail, -⟩ := h
  obtain ⟨hsome, hlower⟩ := isSmallWord_iff.1 hword
  refine ⟨found, blanks, hfound, hlead, by simp [rest, hlead, htail], ?_, hne,
    hfound.isWord_of_isLower hlower, hblanks⟩
  rw [← List.length_pos_iff, ← hfound.length_eq]
  exact List.length_pos_iff.2 hsome

/-- Behind blanks there is one name that agrees with a query: if that is not blank itself, the
blanks end where they do in the query. -/
theorem SameLetters.eq_of_blanks_append {query name name' blanks blanks' rest rest' : List Char}
    (hname : SameLetters query name) (hname' : SameLetters query name')
    (hblanks : ∀ c ∈ blanks, isBlank c) (hblanks' : ∀ c ∈ blanks', isBlank c)
    (h : blanks ++ (name ++ rest) = blanks' ++ (name' ++ rest')) : name = name' := by
  by_cases hquery : (query.takeWhile isBlank).length = query.length
  · rw [hname.eq_of_blank hquery, hname'.eq_of_blank hquery]
  · have htake {blanks name rest : List Char} (hblanks : ∀ c ∈ blanks, isBlank c)
        (hname : SameLetters query name) :
        (blanks ++ (name ++ rest)).takeWhile isBlank = blanks ++ query.takeWhile isBlank := by
      rw [List.takeWhile_append_of_pos hblanks, List.takeWhile_append, hname.takeWhile_isBlank,
        if_neg (hname.length_eq ▸ hquery)]
    have hboth := congrArg (List.takeWhile isBlank) h
    rw [htake hblanks hname, htake hblanks' hname'] at hboth
    rw [List.append_cancel_right hboth, List.append_cancel_left_eq] at h
    exact (List.append_inj h (hname.length_eq.symm.trans hname'.length_eq)).1

/-- **Occurrences with the same start have the same name.** With a mark behind the name this is
plain, as the names agree in their lengths. With a keyword in front, different numbers of blanks
could be left between the two; but a blank agrees with itself alone, so the names would start with
the same blanks. -/
theorem name_eq_of_start_eq {sign : Sign} (hproper : sign.isProper) {query : List Char}
    {p o : Occurrence} (hline : p.line = o.line) (hstart : p.start = o.start)
    (hp : sign.Surrounds p) (ho : sign.Surrounds o) (hpname : SameLetters query p.name)
    (honame : SameLetters query o.name) : p.name = o.name := by
  have hrest : p.rest = o.rest := (List.append_inj hline hstart).2
  cases sign with
  | behind marks =>
    obtain ⟨-, -, -, hplead, -⟩ := hp
    obtain ⟨-, -, -, holead, -⟩ := ho
    rw [Occurrence.rest, Occurrence.rest, hplead, holead, List.nil_append, List.nil_append] at hrest
    exact (List.append_inj hrest (hpname.length_eq.symm.trans honame.length_eq)).1
  | before keywords =>
    obtain ⟨word, hword, hp⟩ := hp
    obtain ⟨word', hword', ho⟩ := ho
    obtain ⟨found, blanks, -, -, hprest, -, hne, hfound, hblanks⟩ :=
      hp.exists_parts (List.all_eq_true.1 hproper word hword)
    obtain ⟨found', blanks', -, -, horest, -, hne', hfound', hblanks'⟩ :=
      ho.exists_parts (List.all_eq_true.1 hproper word' hword')
    obtain ⟨b, blanks, rfl⟩ := List.exists_cons_of_ne_nil hne
    obtain ⟨b', blanks', rfl⟩ := List.exists_cons_of_ne_nil hne'
    rw [hprest, horest] at hrest
    obtain ⟨-, hblanked⟩ := eq_of_append_cons_eq (p := fun c => isBlank c)
      (fun c hc => (hfound c hc).2) (fun c hc => (hfound' c hc).2)
      (hblanks b List.mem_cons_self) (hblanks' b' List.mem_cons_self) hrest
    exact hpname.eq_of_blanks_append honame hblanks hblanks' hblanked

/-- An occurrence of a shape in a line whose name has the very characters of the query. -/
structure Occurrence.Spells (shape : Shape) (query line : String) (o : Occurrence) : Prop where
  line_eq : o.line = line.toList
  surrounds : shape.sign.Surrounds o
  name_eq : o.name = query.toList

/-- Where a shape spells a query the name has the query's letters. -/
theorem Occurrence.Spells.sameLetters {shape : Shape} {query line : String} {o : Occurrence}
    (h : o.Spells shape query line) : SameLetters query.toList o.name :=
  h.name_eq ▸ .refl _

/-- What is listed at the start of an occurrence has the same name. -/
theorem name_eq_of_mem_hits {shape : Shape} {query line : String} {hit : Hit} {o : Occurrence}
    (hhit : hit ∈ shape.hits query line) (ho : o.Spells shape query line)
    (hstart : hit.start = o.start) : hit.name = query.toList := by
  obtain ⟨p, hline, hsurrounds, hsame, rfl⟩ := exists_occurrence_of_mem_hits hhit
  exact (name_eq_of_start_eq shape.isProper_sign (hline.trans ho.line_eq.symm) hstart hsurrounds
    ho.surrounds hsame ho.sameLetters).trans ho.name_eq

/-- Of what is listed, nothing starts inside of something else. -/
theorem not_covered_of_mem_hits {shape : Shape} {query line : String} {hit other : Hit}
    (hhit : hit ∈ shape.hits query line) (hother : other ∈ shape.hits query line) :
    ¬(other.start < hit.start ∧ hit.start < other.stop) := by
  have hsize {hit : Hit} (h : hit ∈ shape.hits query line) : hit.start < hit.stop := by
    obtain ⟨o, -, hsurrounds, -, rfl⟩ := exists_occurrence_of_mem_hits h
    exact Nat.lt_add_of_pos_right hsurrounds.size_pos
  have hapart := List.pairwise_iff_getElem.1 (pairwise_hits shape query line)
  obtain ⟨i, hi, rfl⟩ := List.getElem_of_mem hhit
  obtain ⟨j, hj, rfl⟩ := List.getElem_of_mem hother
  rcases Nat.lt_trichotomy i j with hlt | rfl | hgt
  · have := hsize hhit
    have := hapart i j hi hj hlt
    omega
  · omega
  · have := hapart j i hj hi hgt
    omega

/-- **A line declares a name in its own spelling** if the name stands in it somehow, and does not
start inside of an occurrence that is listed. -/
theorem declares_in_own_spelling_iff {line query : String} :
    declares line query true ↔ ∃ (shape : Shape) (o : Occurrence), o.Spells shape query line ∧
      ∀ hit ∈ shape.hits query line, ¬(hit.start < o.start ∧ o.start < hit.stop) := by
  rw [declares_iff]
  constructor
  · rintro ⟨shape, hit, hhit, hname⟩
    obtain ⟨o, hline, hsurrounds, -, rfl⟩ := exists_occurrence_of_mem_hits hhit
    exact ⟨shape, o, ⟨hline, hsurrounds, hname rfl⟩,
      fun other hother => not_covered_of_mem_hits hhit hother⟩
  · rintro ⟨shape, o, ho, hfree⟩
    obtain ⟨hit, hhit, hle, hlt⟩ := exists_mem_hits ho.line_eq ho.surrounds ho.sameLetters
    refine ⟨shape, hit, hhit, fun _ => name_eq_of_mem_hits hhit ho ?_⟩
    have := hfree hit hhit
    omega

/-- **In front of marks**, an occurrence of a name without blanks and without the mark does not
start inside of another one of the same length: what is behind that one's name is not in the
name. -/
theorem Occurrence.PrecedesMark.not_covers {mark mark' : Char} {p o : Occurrence}
    (hp : p.PrecedesMark mark) (ho : o.PrecedesMark mark') (hline : p.line = o.line)
    (hlength : p.name.length = o.name.length) (hne : o.name ≠ [])
    (hblank : ∀ c ∈ o.name, ¬isBlank c) (hmark : mark ∉ o.name) :
    ¬(p.start < o.start ∧ o.start < p.stop) := by
  rintro ⟨hlt, hstop⟩
  obtain ⟨-, hplead, blanks, htail, hblanks⟩ := hp
  obtain ⟨-, holead, -⟩ := ho
  have htext : (p.front ++ p.name) ++ (p.tail ++ p.back) =
      o.front ++ (o.name ++ (o.tail ++ o.back)) := by
    simpa [line, rest, hplead, holead] using hline
  have hdisjoint : p.tail.Disjoint o.name := by
    intro c hc hname
    rw [htail, List.mem_append, List.mem_singleton] at hc
    rcases hc with hc | rfl
    · exact hblank c hname (hblanks c hc)
    · exact hmark hname
  have happart := apart_of_disjoint htext (by simp [htail]) hne hdisjoint
  simp only [start, stop, size, hplead, List.length_append, List.length_nil] at hlt hstop happart
  omega

/-- Behind words, what starts later than another occurrence starts behind what leads up to the name
of that one: not inside of its word, where there is no word boundary, and not with one of its
blanks. -/
theorem Occurrence.FollowsWord.lead_le_start {word word' : String} {p o : Occurrence}
    (hp : p.FollowsWord word) (ho : o.FollowsWord word') (hword : isSmallWord word)
    (hword' : isSmallWord word') (hline : p.line = o.line) (hlt : p.start < o.start) :
    p.start + p.lead.length ≤ o.start := by
  obtain ⟨found, blanks, -, hlead, hrest, -, hne, hletters, hblanks⟩ := hp.exists_parts hword
  obtain ⟨found', blanks', -, -, hrest', hsome, -, hletters', -⟩ := ho.exists_parts hword'
  rw [line, line, hrest] at hline
  have hbehindWord := ho.starts.not_inside hline fun c hc => (hletters c hc).1
  have hparts : (p.front ++ found) ++ (blanks ++ (p.name ++ p.back)) =
      o.front ++ (found' ++ (blanks' ++ (o.name ++ o.back))) := by
    rw [List.append_assoc, hline, hrest']
  have hbehindBlanks := apart_of_disjoint hparts hne hsome
    fun c hc hc' => (hletters' c hc').2 (hblanks c hc)
  have hpos := List.length_pos_iff.2 hsome
  simp only [start, hlead, List.length_append] at hlt hbehindWord hbehindBlanks ⊢
  omega

/-- **Behind words**, an occurrence that starts inside of another one with a name without blanks
starts with the last word of that name: its word does not reach over the end of the name, where a
word boundary is, and the blanks behind its word are no part of the name. -/
theorem Occurrence.FollowsWord.exists_of_covers {word word' : String} {p o : Occurrence}
    (hp : p.FollowsWord word) (ho : o.FollowsWord word') (hword : isSmallWord word)
    (hword' : isSmallWord word') (hline : p.line = o.line)
    (hblank : ∀ c ∈ p.name, ¬isBlank c) (hlt : p.start < o.start) (hstop : o.start < p.stop) :
    ∃ front found, p.name = front ++ found ∧ SameLetters word'.toList found ∧
      BoundaryBetween front found := by
  have hlead := hp.lead_le_start ho hword hword' hline hlt
  obtain ⟨found, blanks, hfound, -, hrest, hsome, hne, hletters, hblanks⟩ := ho.exists_parts hword'
  have hparts : (p.front ++ p.lead) ++ (p.name ++ p.back) =
      (o.front ++ found) ++ (blanks ++ (o.name ++ o.back)) := by
    rw [List.append_assoc (o.front), ← hrest, ← line, ← hline, line, rest, hp.tail_eq,
      List.nil_append, List.append_assoc]
  have hinside := hp.stops.not_inside
    (by rw [← List.append_assoc, ← hparts, List.append_assoc _ p.name])
    fun c hc => (hletters c hc).1
  simp only [start, stop, size, hp.tail_eq, List.length_append, List.length_nil]
    at hlead hlt hstop hinside
  have hname : p.name ≠ [] := by
    rw [← List.length_pos_iff]
    omega
  have hbehind := apart_of_disjoint hparts hname hne fun c hc hc' => hblank c hc (hblanks c hc')
  have hpos := List.length_pos_iff.2 hsome
  have hpos' := List.length_pos_iff.2 hne
  simp only [List.length_append] at hbehind
  have hends : p.front ++ p.lead ++ p.name = o.front ++ found := by
    rw [← List.append_assoc] at hparts
    refine (List.append_inj hparts ?_).1
    simp only [List.length_append]
    omega
  obtain ⟨front, hfront⟩ : p.front ++ p.lead <+: o.front := by
    refine List.prefix_of_prefix_length_le ⟨_, hends⟩ (List.prefix_append _ _) ?_
    rwa [List.length_append]
  refine ⟨front, found, ?_, hfound, ?_⟩
  · rw [← hfront, List.append_assoc (p.front ++ p.lead)] at hends
    exact List.append_cancel_left hends
  · have hstarts := ho.starts
    rw [hrest, boundaryBetween_append_right hsome, ← hfront] at hstarts
    by_cases hempty : front = []
    · obtain ⟨c, found, rfl⟩ := List.exists_cons_of_ne_nil hsome
      simp [hempty, BoundaryBetween, isBoundary, (hletters c List.mem_cons_self).1]
    · exact (boundaryBetween_append hempty).1 hstarts

/-- Whether a name has no part in an occurrence but its own: it has no blanks and none of the marks,
and no spelling of it is one of the words or ends in one, from a word boundary on. -/
structure StandsAlone (query : List Char) : Prop where
  no_blank : ∀ c ∈ query, ¬isBlank c
  no_mark : ∀ c ∈ query, c ∉ declaringMarks
  no_word : ¬∃ front found, SameLetters query (front ++ found) ∧
    (∃ word ∈ declaringWords, SameLetters word.toList found) ∧ BoundaryBetween front found

/-- A spelling of a name without blanks has no blanks. -/
theorem SameLetters.not_blank {query name : List Char} (h : SameLetters query name)
    (hquery : ∀ c ∈ query, ¬isBlank c) : ∀ c ∈ name, ¬isBlank c := by
  intro c hc hblank
  obtain ⟨w, hw, hsame⟩ := h.exists_of_mem hc
  obtain rfl := eq_of_sameLetter hsame (.inr hblank)
  exact hquery w hw hblank

/-- **Occurrences of a name that stands alone do not start inside of each other.** In front of a
mark they could only do so if the name held the mark; behind a keyword only if the name ended in a
word that declares. -/
theorem StandsAlone.not_covers {shape : Shape} {query : List Char} (h : StandsAlone query)
    {p o : Occurrence} (hp : shape.sign.Surrounds p) (ho : shape.sign.Surrounds o)
    (hline : p.line = o.line) (hpname : SameLetters query p.name) (honame : o.name = query)
    (hne : query ≠ []) : ¬(p.start < o.start ∧ o.start < p.stop) := by
  have hmark {mark mark' : Char} (hmem : mark ∈ declaringMarks) (hp : p.PrecedesMark mark)
      (ho : o.PrecedesMark mark') : ¬(p.start < o.start ∧ o.start < p.stop) := by
    subst honame
    exact hp.not_covers ho hline hpname.length_eq.symm hne h.no_blank
      fun hname => h.no_mark mark hname hmem
  have hword {word word' : String} (hmem : word ∈ declaringWords) (hmem' : word' ∈ declaringWords)
      (hp : p.FollowsWord word) (ho : o.FollowsWord word') :
      ¬(p.start < o.start ∧ o.start < p.stop) := by
    rintro ⟨hlt, hstop⟩
    have hsmall : ∀ word ∈ declaringWords, isSmallWord word := by decide
    obtain ⟨front, found, hname, hfound, hboundary⟩ := hp.exists_of_covers ho
      (hsmall word hmem) (hsmall word' hmem') hline (hpname.not_blank h.no_blank) hlt hstop
    exact h.no_word ⟨front, found, hname ▸ hpname, ⟨word', hmem', hfound⟩, hboundary⟩
  cases shape with
  | typeKeyword | aliasKeyword =>
    obtain ⟨word, hmem, hp⟩ := hp
    obtain ⟨word', hmem', ho⟩ := ho
    exact hword ((show _ ⊆ declaringWords by decide) hmem)
      ((show _ ⊆ declaringWords by decide) hmem') hp ho
  | assignment | call | generic | index =>
    obtain ⟨mark, hmem, hp⟩ := hp
    obtain ⟨mark', -, ho⟩ := ho
    exact hmark ((show _ ⊆ declaringMarks by decide) hmem) hp ho

/-- **A name that stands alone is declared in its own spelling wherever it stands** as a shape asks
for, whatever other spellings stand before it. -/
theorem StandsAlone.declares_iff {line query : String} (h : StandsAlone query.toList) :
    declares line query true ↔
      ∃ (shape : Shape) (o : Occurrence), o.Spells shape query line := by
  rw [declares_in_own_spelling_iff]
  constructor
  · rintro ⟨shape, o, ho, -⟩
    exact ⟨shape, o, ho⟩
  · rintro ⟨shape, o, ho⟩
    by_cases hne : query.toList = []
    · -- an empty name has one spelling, so what is listed will do
      obtain ⟨hit, hhit, -⟩ := exists_mem_hits ho.line_eq ho.surrounds ho.sameLetters
      obtain ⟨p, hline, hsurrounds, hsame, rfl⟩ := exists_occurrence_of_mem_hits hhit
      exact ⟨shape, p, ⟨hline, hsurrounds, hsame.eq_of_blank (by simp [hne])⟩,
        fun other hother => not_covered_of_mem_hits hhit hother⟩
    · refine ⟨shape, o, ho, fun hit hhit => ?_⟩
      obtain ⟨p, hline, hsurrounds, hsame, rfl⟩ := exists_occurrence_of_mem_hits hhit
      exact h.not_covers hsurrounds ho.surrounds (hline.trans ho.line_eq.symm) hsame ho.name_eq hne

/-- **Exact matching, with regard to case.**  A line is taken for a declaration of a name exactly
when the very characters of the name stand somewhere in the line as one of the shapes asks for, and
that occurrence does not start inside of one that is listed for the shape, in whatever spelling.
The answer is then the one that is given without regard to case.  For a name that stands alone the
proviso is void: no occurrence is missed, whatever other spellings stand before it. -/
theorem classify_in_own_spelling (line query : String) :
    ((classify line query true).isSome ↔ ∃ (shape : Shape) (o : Occurrence),
      o.Spells shape query line ∧
        ∀ hit ∈ shape.hits query line, ¬(hit.start < o.start ∧ o.start < hit.stop)) ∧
    (∀ kind, classify line query true = some kind → classify line query false = some kind) ∧
    (StandsAlone query.toList → ((classify line query true).isSome ↔
      ∃ (shape : Shape) (o : Occurrence), o.Spells shape query line)) := by
  refine ⟨isSome_classify_iff.trans declares_in_own_spelling_iff, fun kind hkind => ?_,
    fun halone => isSome_classify_iff.trans halone.declares_iff⟩
  have hdeclares : declares line query true := isSome_classify_iff.1 (by simp [hkind])
  rw [classify, if_pos hdeclares] at hkind
  rw [classify, if_pos (declares_of_caseSensitive hdeclares), hkind]

/-- A name of three letters stands alone; here it stands among the arguments of a call to a name of
another spelling. -/
theorem classify_in_own_spelling_nested :
    StandsAlone "Box".toList ∧ ((classify "x = box(Box())" "Box" true).isSome ↔
      ∃ (shape : Shape) (o : Occurrence), o.Spells shape "Box" "x = box(Box())") := by
  have halone : StandsAlone "Box".toList := by
    refine ⟨by simpa using List.all_eq_true.1 (show "Box".toList.all (!isBlank ·) by decide),
      by simp [declaringMarks], ?_⟩
    rintro ⟨front, found, hname, ⟨word, hword, hfound⟩, -⟩
    have hlong : ∀ word ∈ declaringWords, 4 ≤ word.toList.length := by decide
    have hlength := hname.length_eq
    have := hlong word hword
    have := hfound.length_eq
    rw [List.length_append, String.length_toList, show "Box".length = 3 by decide] at hlength
    omega
  exact ⟨halone, (classify_in_own_spelling "x = box(Box())" "Box").2.2 halone⟩

/-- A word of the language as a name: the alias keyword takes `Type` for its name, which is spelled
otherwise, and the same `Type` is then missing as the keyword in front of `type`. -/
theorem covered_occurrence_is_missed :
    ¬((classify "typedef Type type;" "type" true).isSome ↔
      ∃ (shape : Shape) (o : Occurrence), o.Spells shape "type" "typedef Type type;") := by
  have hspells : Occurrence.Spells .aliasKeyword "type" "typedef Type type;"
      ⟨"typedef ".toList, "Type ".toList, "type".toList, [], ";".toList⟩ := by
    refine ⟨by decide, ⟨"type", by decide, by decide +kernel, ⟨"Type".toList, [' '], by decide, ?_,
      by decide, List.all_eq_true.1 (by decide)⟩, rfl, by decide +kernel⟩, rfl⟩
    exact .cons (by decide) (.cons (by decide) (.cons (by decide) (.cons (by decide) .nil)))
  have hmissed : (classify "typedef Type type;" "type" true).isSome = false := by decide +kernel
  rw [hmissed]
  exact fun h => Bool.false_ne_true (h.2 ⟨_, _, hspells⟩)

end Shape
end DeclSearch
