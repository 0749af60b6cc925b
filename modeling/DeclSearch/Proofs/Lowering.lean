/-
# Lower case in context

The lower case of a text is that of its letters one after another, but for the capital sigma, which
looks at the letters around it.  `Text.lowerBetween` is the lower case that a text has where it
stands between two others, and the lower case of a whole text is cut along its parts with it
(`lowerChars_append`).  So what a part comes to is seen in the whole (`infix_lowerChars`), and it
is what the part comes to on its own unless a capital sigma of it takes another form.

Letters are also compared one by one, and then letters agree that share their capital and have
different lower cases.  All other letters have one lower case each, wherever they stand
(`lowerAt_of_not_sharesCapital`), so texts that agree letter for letter have the same lower case as
soon as the letters of the first kind have it (`lowerBetween_eq_of_formsAgree`).

A sigma is settled in a text if its form cannot change with what stands around the text
(`Text.isSettled`): a cased letter follows it, or something that is neither cased nor looked
through stands before it, or the text decides on both sides.  A text all of whose sigmas are
settled comes to the same everywhere (`lowerBetween_of_sigmasSettled`).  Any other text comes to
something else behind or in front of a single letter (`Deciding.lowerBetween_ne`), and with that
letter it makes a text whose lower case does not hold its own
(`exists_infix_not_infix_lowerChars`).
-/

import DeclSearch.Text.Letter
import DeclSearch.Text.Pieces
import Mathlib.Data.List.Basic
import Mathlib.Data.List.Forall2

namespace DeclSearch
namespace Text

/-- A text occurs in another one if it is a part of it. -/
theorem occursIn_iff {sub cs : List Char} : occursIn sub cs ↔ sub <:+: cs := by
  induction cs with
  | nil => simp [occursIn]
  | cons c cs ih =>
    rw [occursIn, Bool.or_eq_true, ih, List.isPrefixOf_iff_prefix, List.infix_cons_iff]

/-- The lower case that a text has between the text before it, nearest character first, and the
text after it. -/
def lowerBetween (before : List Char) : (cs after : List Char) → List Char
  | [], _ => []
  | c :: rest, after => lowerAt before c (rest ++ after) ++ lowerBetween (c :: before) rest after

/-- Lowering onto characters puts what is lowered behind them. -/
theorem lowerOnto_eq (before done cs : List Char) :
    lowerOnto before done cs = done.reverse ++ lowerBetween before cs [] := by
  induction cs generalizing before done with
  | nil => simp [lowerOnto, lowerBetween]
  | cons c rest ih => simp [lowerOnto, lowerBetween, ih]

/-- A whole text is lowered with nothing around it. -/
theorem lowerChars_eq (cs : List Char) : lowerChars cs = lowerBetween [] cs [] :=
  lowerOnto_eq [] [] cs

/-- A text is lowered part by part, if each part is told what stands around it. -/
theorem lowerBetween_append (before cs more after : List Char) :
    lowerBetween before (cs ++ more) after =
      lowerBetween before cs (more ++ after) ++ lowerBetween (cs.reverse ++ before) more after := by
  induction cs generalizing before with
  | nil => simp [lowerBetween]
  | cons c cs ih => simp [lowerBetween, ih]

/-- **The lower case of a text, cut along its parts.** -/
theorem lowerChars_append (front name back : List Char) :
    lowerChars (front ++ name ++ back) =
      lowerBetween [] front (name ++ back) ++ lowerBetween front.reverse name back ++
        lowerBetween (name.reverse ++ front.reverse) back [] := by
  rw [lowerChars_eq, lowerBetween_append, lowerBetween_append]
  simp

/-- What a part of a text comes to is seen in the lower case of the whole. -/
theorem infix_lowerChars (front name back : List Char) :
    lowerBetween front.reverse name back <:+: lowerChars (front ++ name ++ back) :=
  ⟨_, _, (lowerChars_append front name back).symm⟩

/-- How many characters a letter comes to does not depend on where it stands. -/
theorem length_lowerAt (before before' after after' : List Char) (c : Char) :
    (lowerAt before c after).length = (lowerAt before' c after').length := by
  unfold lowerAt
  split
  · split <;> split <;> rfl
  · rfl

/-- What stands around a text does not change how long it is when it is lowered. -/
theorem length_lowerBetween (before before' cs after after' : List Char) :
    (lowerBetween before cs after).length = (lowerBetween before' cs after').length := by
  induction cs generalizing before before' with
  | nil => rfl
  | cons c cs ih =>
    rw [lowerBetween, lowerBetween, List.length_append, List.length_append,
      length_lowerAt before before' _ (cs ++ after'), ih]

/-- Every letter but the capital sigma has one lower case. -/
theorem lowerAt_of_ne_sigma {c : Char} (hc : c ≠ 'Σ') (before before' after after' : List Char) :
    lowerAt before c after = lowerAt before' c after' := by
  rw [lowerAt, lowerAt, if_neg hc, if_neg hc]

/-- Whether a cased letter comes first is told by the front, unless all of that is ignored. -/
theorem startsCased_append (cs more : List Char) :
    startsCased (cs ++ more) =
      if cs.all isCaseIgnorable then startsCased more else startsCased cs := by
  induction cs with
  | nil => rfl
  | cons c cs ih =>
    unfold startsCased at ih ⊢
    cases hc : isCaseIgnorable c with
    | false => simp [hc]
    | true => simpa [hc] using ih

/-- What is looked through altogether starts with no cased letter. -/
theorem startsCased_of_all {cs : List Char} (h : cs.all isCaseIgnorable) :
    startsCased cs = false := by
  rw [← List.append_nil cs, startsCased_append, if_pos h]
  rfl

/-- Whether a letter shares its capital with another one, so that ignoring case it agrees with
letters that have another lower case. -/
def sharesCapital (c : Char) : Bool :=
  sharedUpperFamilies.any fun family => family.contains (lowerChar c).toNat

/-- A letter that has its capital to itself agrees with the letters of its lower case only. -/
theorem lowerChar_eq_of_sameLetter {a b : Char} (h : sameLetter a b)
    (hb : sharesCapital b = false) : lowerChar a = lowerChar b := by
  unfold sameLetter at h
  rw [Bool.or_eq_true, beq_iff_eq] at h
  refine h.resolve_right fun hfamily => ?_
  obtain ⟨family, hmem, hboth⟩ := List.any_eq_true.1 hfamily
  have hshared : sharesCapital b = true :=
    List.any_eq_true.2 ⟨family, hmem, (Bool.and_eq_true_iff.1 hboth).2⟩
  exact absurd (hshared.symm.trans hb) nofun

/-- **A letter that has its capital to itself has one lower case**, and that is one character. -/
theorem lowerAt_of_not_sharesCapital {c : Char} (hc : sharesCapital c = false)
    (before after : List Char) : lowerAt before c after = [lowerChar c] := by
  have hsigma : c ≠ 'Σ' := by
    rintro rfl
    exact absurd hc (by decide)
  have hdotted : c.toNat ≠ 0x130 := by
    intro hn
    have hlower : lowerChar c = 'i' := by simp [lowerChar, hn]
    rw [sharesCapital, hlower] at hc
    exact absurd hc (by decide)
  rw [lowerAt, if_neg hsigma, if_neg hdotted]

/-- Whether the letters of a name that share their capital have, between `before` and the text
after the name, the lower case of the query's letters behind `queried`. -/
def formsAgree (queried before : List Char) : (query name after : List Char) → Bool
  | q :: query, c :: name, after =>
    (!sharesCapital c || lowerAt before c (name ++ after) == lowerAt queried q query) &&
      formsAgree (q :: queried) (c :: before) query name after
  | _, _, _ => true

/-- **Letters that agree up to case have one lower case**, if those that share their capital have
the same one. -/
theorem lowerBetween_eq_of_formsAgree {queried before query name after : List Char}
    (hsame : List.Forall₂ (fun q c => sameLetter q c) query name)
    (hforms : formsAgree queried before query name after) :
    lowerBetween before name after = lowerBetween queried query [] := by
  induction hsame generalizing queried before with
  | nil => rfl
  | @cons q c query name hfirst hrest ih =>
    rw [formsAgree, Bool.and_eq_true, Bool.or_eq_true, beq_iff_eq] at hforms
    rw [lowerBetween, lowerBetween, ih hforms.2, List.append_nil]
    congr 1
    rcases hforms.1 with hc | hform
    · have hc : sharesCapital c = false := by simpa using hc
      have hlower := lowerChar_eq_of_sameLetter hfirst hc
      have hq : sharesCapital q = false := by rwa [sharesCapital, hlower]
      rw [lowerAt_of_not_sharesCapital hc, lowerAt_of_not_sharesCapital hq, hlower]
    · exact hform

/-- Whether the form of a capital sigma is settled by the text before it, nearest character first,
and the text after it, whatever stands before and after these. -/
def isSettled (before after : List Char) : Bool :=
  startsCased after ||
    (!before.all isCaseIgnorable && (!startsCased before || !after.all isCaseIgnorable))

/-- Whether the form of every capital sigma of a text that stands behind `before` is settled. -/
def settledFrom (before : List Char) : List Char → Bool
  | [] => true
  | c :: rest => (c ≠ 'Σ' || isSettled before rest) && settledFrom (c :: before) rest

/-- Whether the form of every capital sigma of a text is settled. -/
def sigmasSettled (cs : List Char) : Bool := settledFrom [] cs

/-- A settled sigma has one form, whatever stands further out. -/
theorem lowerAt_of_isSettled {before after : List Char} (h : isSettled before after)
    (outer far : List Char) :
    lowerAt (before ++ outer) 'Σ' (after ++ far) = lowerAt before 'Σ' after := by
  have hform : (startsCased (before ++ outer) && !startsCased (after ++ far)) =
      (startsCased before && !startsCased after) := by
    rw [startsCased_append, startsCased_append]
    unfold isSettled at h
    by_cases hbefore : before.all isCaseIgnorable <;> by_cases hafter : after.all isCaseIgnorable
    · rw [startsCased_of_all hafter, hbefore] at h
      exact nomatch h
    · have hcased : startsCased after = true := by simpa [hbefore] using h
      simp [hafter, hcased]
    · have hcased : startsCased before = false := by
        simpa [hbefore, hafter, startsCased_of_all hafter] using h
      simp [hbefore, hcased]
    · simp [hbefore, hafter]
  rw [lowerAt, lowerAt, if_pos rfl, if_pos rfl, hform]

/-- A text that is settled by what stands in front of it is lowered alike in any surroundings. -/
theorem lowerBetween_of_settledFrom {before cs : List Char} (h : settledFrom before cs)
    (outer after : List Char) :
    lowerBetween (before ++ outer) cs after = lowerBetween before cs [] := by
  induction cs generalizing before with
  | nil => rfl
  | cons c cs ih =>
    rw [settledFrom, Bool.and_eq_true] at h
    have hrest := ih h.2
    rw [List.cons_append] at hrest
    rw [lowerBetween, lowerBetween, hrest, List.append_nil]
    congr 1
    by_cases hc : c = 'Σ'
    · subst hc
      exact lowerAt_of_isSettled (by simpa using h.1) outer after
    · exact lowerAt_of_ne_sigma hc ..

/-- **A text whose sigmas are settled has one lower case**, wherever it stands: what stands around
it decides the form of no sigma in it. -/
theorem lowerBetween_of_sigmasSettled {cs : List Char} (h : sigmasSettled cs)
    (before after : List Char) : lowerBetween before cs after = lowerChars cs := by
  rw [lowerChars_eq]
  exact lowerBetween_of_settledFrom h before after

/-- A letter that decides about the sigmas around it and has itself as its lower case. -/
structure Deciding (c : Char) : Prop where
  notIgnorable : isCaseIgnorable c = false
  cased : isCased c = true
  lower : ∀ before after, lowerAt before c after = [c]

/-- The letters `a`, `b` and `c` decide about the sigmas around them. -/
theorem deciding_of_mem {c : Char} (h : c ∈ ['a', 'b', 'c']) : Deciding c := by
  have hletter : isCaseIgnorable c = false ∧ isCased c = true ∧ c ≠ 'Σ' ∧ c.toNat ≠ 0x130 ∧
      lowerChar c = c := by
    simp only [List.mem_cons, List.not_mem_nil, or_false] at h
    rcases h with rfl | rfl | rfl <;> decide
  obtain ⟨hignorable, hcased, hsigma, hdotted, hlower⟩ := hletter
  refine ⟨hignorable, hcased, fun before after => ?_⟩
  rw [lowerAt, if_neg hsigma, if_neg hdotted, hlower]

/-- With a deciding letter behind it a text starts with a cased letter if it did so before, or if
all of it is ignored. -/
theorem Deciding.startsCased_append {c : Char} (h : Deciding c) (cs : List Char) :
    startsCased (cs ++ [c]) = (cs.all isCaseIgnorable || startsCased cs) := by
  rw [Text.startsCased_append]
  have hc : startsCased [c] = true := by simp [startsCased, h.notIgnorable, h.cased]
  cases cs.all isCaseIgnorable <;> simp [hc]

/-- A sigma that is not settled has another form behind or in front of a letter. -/
theorem Deciding.lowerAt_ne {c : Char} (h : Deciding c) {before after : List Char}
    (hsettled : isSettled before after = false) :
    lowerAt (before ++ [c]) 'Σ' after ≠ lowerAt before 'Σ' after ∨
      lowerAt before 'Σ' (after ++ [c]) ≠ lowerAt before 'Σ' after := by
  simp only [lowerAt, if_true, h.startsCased_append]
  unfold isSettled at hsettled
  by_cases hbefore : before.all isCaseIgnorable
  · left
    have hafter : startsCased after = false := by simpa [hbefore] using hsettled
    simp [hbefore, hafter, startsCased_of_all hbefore]
  · right
    rw [Bool.or_eq_false_iff] at hsettled
    obtain ⟨hafter, hboth⟩ := hsettled
    have hdecided : startsCased before = true ∧ after.all isCaseIgnorable = true := by
      simpa [hbefore] using hboth
    simp [hafter, hdecided.1, hdecided.2]

/-- A text with a sigma that is not settled comes to something else behind or in front of a
letter. -/
theorem Deciding.lowerBetween_ne {c : Char} (h : Deciding c) {before cs : List Char}
    (hsettled : settledFrom before cs = false) :
    lowerBetween (before ++ [c]) cs [] ≠ lowerBetween before cs [] ∨
      lowerBetween before cs [c] ≠ lowerBetween before cs [] := by
  induction cs generalizing before with
  | nil => exact nomatch hsettled
  | cons d cs ih =>
    simp only [lowerBetween, List.append_nil]
    rw [settledFrom, Bool.and_eq_false_iff] at hsettled
    rcases hsettled with hfirst | hrest
    · obtain ⟨rfl, hd⟩ : d = 'Σ' ∧ isSettled before cs = false := by simpa using hfirst
      refine (h.lowerAt_ne hd).imp (fun hne he => hne ?_) (fun hne he => hne ?_)
      · exact (List.append_inj he (length_lowerAt ..)).1
      · exact (List.append_inj he (length_lowerAt ..)).1
    · refine (ih hrest).imp (fun hne he => hne ?_) (fun hne he => hne ?_)
      · exact (List.append_inj he (length_lowerAt ..)).2
      · exact (List.append_inj he (length_lowerAt ..)).2

/-- A letter that decides about sigmas and differs from two letters. -/
theorem exists_deciding_ne (first last : Option Char) :
    ∃ c, Deciding c ∧ some c ≠ first ∧ some c ≠ last := by
  by_cases ha : some 'a' ≠ first ∧ some 'a' ≠ last
  · exact ⟨'a', deciding_of_mem (by decide), ha⟩
  by_cases hb : some 'b' ≠ first ∧ some 'b' ≠ last
  · exact ⟨'b', deciding_of_mem (by decide), hb⟩
  refine ⟨'c', deciding_of_mem (by decide), ?_⟩
  grind

/-- A text behind one letter holds no other text of its length that starts with another letter. -/
theorem not_infix_cons {c : Char} {sub cs : List Char} (hlength : sub.length = cs.length)
    (hne : cs ≠ sub) (hc : some c ≠ sub.head?) : ¬ sub <:+: c :: cs := by
  rw [List.infix_cons_iff]
  rintro (hfront | hwithin)
  · rcases List.prefix_cons_iff.1 hfront with rfl | ⟨rest, rfl, -⟩
    · exact hne (List.length_eq_zero_iff.1 hlength.symm)
    · exact hc rfl
  · exact hne (hwithin.eq_of_length hlength).symm

/-- **A text with a sigma that is not settled is lost.**  It stands in some text whose lower case
does not hold its own. -/
theorem exists_infix_not_infix_lowerChars {query : List Char} (h : sigmasSettled query = false) :
    ∃ candidate, query <:+: candidate ∧ ¬ lowerChars query <:+: lowerChars candidate := by
  obtain ⟨c, hc, hfirst, hlast⟩ :=
    exists_deciding_ne (lowerChars query).head? (lowerChars query).getLast?
  rcases hc.lowerBetween_ne h with hne | hne
  · refine ⟨c :: query, List.infix_cons List.infix_rfl, ?_⟩
    rw [lowerChars_eq (c :: query), lowerBetween, hc.lower]
    refine not_infix_cons ?_ ?_ hfirst
    · rw [lowerChars_eq]
      exact length_lowerBetween ..
    · rw [lowerChars_eq]
      exact hne
  · refine ⟨query ++ [c], (List.prefix_append _ _).isInfix, ?_⟩
    have hwhole : lowerChars (query ++ [c]) = lowerBetween [] query [c] ++ [c] := by
      rw [lowerChars_eq, lowerBetween_append, lowerBetween, hc.lower]
      rfl
    rw [hwhole, ← List.reverse_infix, List.reverse_append, List.reverse_singleton,
      List.singleton_append]
    refine not_infix_cons ?_ (fun he => hne ?_) (by rwa [List.head?_reverse])
    · rw [List.length_reverse, List.length_reverse, lowerChars_eq]
      exact length_lowerBetween ..
    · rw [List.reverse_injective he, lowerChars_eq]

end Text
end DeclSearch
