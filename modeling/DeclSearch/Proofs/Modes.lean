/-
# How the modes of a search compare

A line of text counts in one of four ways: as a declaration of the query or as holding it, and with
or without regard to case.  Where every line that counts in one way counts in another, what a file
has the one way is a part of what it has the other way, in the same order
(`Scan.scanLines_sublist`).

Exact mode compares letters, and agrees with the lower case of whole texts on all letters but those
that share their capital with others (`Text.lowerAt_of_not_sharesCapital`).  So a line that declares
the query also holds it, as long as these letters have at the name the lower case that they have in
the query (`exact_results_are_substring_results`); where they have not, the line is missing in
substring mode (`declared_line_is_not_found`).

Whoever ignores case should find more.  This is so in exact mode, and in substring mode for the
queries whose capital sigmas are settled, and for no others (`ignoring_case_keeps_results_iff`).
-/

import DeclSearch.Proofs.Faithful
import DeclSearch.Proofs.Lowering
import DeclSearch.Proofs.Hits
import DeclSearch.Python.Project

namespace DeclSearch

/-- What one function keeps of a list is a part of what another one keeps, if the other keeps the
same of every item. -/
theorem filterMap_sublist_filterMap {α β : Type} {f g : α → Option β} {l : List α}
    (h : ∀ a ∈ l, ∀ b, f a = some b → g a = some b) :
    (l.filterMap f).Sublist (l.filterMap g) := by
  induction l with
  | nil => exact .slnil
  | cons a l ih =>
    have hrest := ih fun b hb => h b (List.mem_cons_of_mem _ hb)
    rcases hf : f a with _ | b
    · rw [List.filterMap_cons_none hf]
      rcases hg : g a with _ | b
      · rwa [List.filterMap_cons_none hg]
      · rw [List.filterMap_cons_some hg]
        exact hrest.cons b
    · rw [List.filterMap_cons_some hf, List.filterMap_cons_some (h a List.mem_cons_self b hf)]
      exact hrest.cons_cons b

/-- An exact request accepts the lines that declare its query. -/
theorem Request.acceptsLine_of_exact {r : Request} (h : r.exact = true) (line : String) :
    r.acceptsLine line = Shape.declares line r.query r.caseSensitive := if_pos h

/-- Any other request accepts the lines in which its query occurs. -/
theorem Request.acceptsLine_of_substring {r : Request} (h : r.exact = false) (line : String) :
    r.acceptsLine line = NameTest.accepts ⟨r.query, false, r.caseSensitive⟩ line :=
  if_neg (by simp [h])

/-- A line counts as what its keywords say, if it passes the test of the request. -/
theorem Scan.kindOfLine?_eq (r : Request) (line : String) :
    kindOfLine? r line = if r.acceptsLine line then some (LineKind.ofLine line) else none := by
  unfold kindOfLine? Request.acceptsLine Shape.classify
  split <;> rfl

/-- **A request that accepts more lines has more results**, and the others in the same order. -/
theorem Scan.scanLines_sublist {r s : Request} (hquery : r.query = s.query) {lines : List String}
    (h : ∀ line ∈ lines, r.acceptsLine line → s.acceptsLine line) (file : String) :
    (scanLines r file lines).Sublist (scanLines s file lines) := by
  refine filterMap_sublist_filterMap fun entry hentry m hm => ?_
  obtain ⟨kind, hkind, rfl⟩ := Option.map_eq_some_iff.1 hm
  have hline : entry.1 ∈ lines := by
    obtain ⟨-, -, hline⟩ := List.mem_zipIdx hentry
    exact hline ▸ List.getElem_mem _
  rw [kindOfLine?_eq] at hkind
  split at hkind
  · next haccepts =>
    obtain rfl := Option.some.inj hkind
    change (kindOfLine? s entry.1).map _ = _
    rw [kindOfLine?_eq, if_pos (h _ hline haccepts), ← hquery]
    rfl
  · exact nomatch hkind

/-- A line that a request accepts is accepted by one whose results hold those of the first. -/
theorem Scan.acceptsLine_of_scanLines_sublist {r s : Request} {file line : String}
    (h : (scanLines r file [line]).Sublist (scanLines s file [line])) (hline : r.acceptsLine line) :
    s.acceptsLine line := by
  have hsize := h.length_le
  by_contra hs
  simp [scanLines, match?, kindOfLine?_eq, hline, hs] at hsize

namespace NameTest

/-- A candidate is accepted if the query is a part of it, as both are written or in small
letters. -/
theorem accepts_substring_iff {query candidate : String} (caseSensitive : Bool) :
    accepts ⟨query, false, caseSensitive⟩ candidate ↔
      if caseSensitive then query.toList <:+: candidate.toList
      else Text.lowerChars query.toList <:+: Text.lowerChars candidate.toList := by
  cases caseSensitive <;> simp [accepts, Text.occursIn_iff]

end NameTest

namespace Shape

/-- Whether a line declares the query in the query's own forms: the letters of the name that share
their capital with others have the lower case that the letters of the query have. -/
def DeclaresInForm (line query : String) : Prop :=
  ∃ shape : Shape, ∃ hit ∈ shape.hits query line, ∃ front back,
    line.toList = front ++ hit.name ++ back ∧
      Text.formsAgree [] front.reverse query.toList hit.name back

/-- What a line declares in a case-sensitive search, it holds. -/
theorem accepts_of_declares {line query : String} (h : declares line query true) :
    NameTest.accepts ⟨query, false, true⟩ line := by
  obtain ⟨shape, hit, hhit, hname⟩ := declares_iff.1 h
  obtain ⟨front, back, hline, -⟩ := exists_of_mem_hits hhit
  rw [NameTest.accepts_substring_iff, if_pos rfl, hline, hname rfl]
  exact ⟨front, back, rfl⟩

/-- **What a line declares in the query's own forms, it holds when case is ignored.** -/
theorem accepts_of_declaresInForm {line query : String} (h : DeclaresInForm line query) :
    NameTest.accepts ⟨query, false, false⟩ line := by
  obtain ⟨shape, hit, hhit, front, back, hline, hforms⟩ := h
  obtain ⟨-, -, -, hsame⟩ := exists_of_mem_hits hhit
  rw [NameTest.accepts_substring_iff, if_neg Bool.false_ne_true, hline,
    Text.lowerChars_eq query.toList, ← Text.lowerBetween_eq_of_formsAgree hsame hforms]
  exact Text.infix_lowerChars front hit.name back

end Shape

/-- **Exact mode refines substring mode.**  Of every list of lines the exact results are among the
substring results, in the same order, if the search is case-sensitive or every line that declares
the query declares it in the query's own forms.  That asks nothing of the letters that have their
capital to themselves. -/
theorem exact_results_are_substring_results (r : Request) (file : String) (lines : List String)
    (hforms : r.caseSensitive = true ∨ ∀ line ∈ lines, Shape.declares line r.query false →
      Shape.DeclaresInForm line r.query) :
    (Scan.scanLines { r with exact := true } file lines).Sublist
      (Scan.scanLines { r with exact := false } file lines) := by
  refine Scan.scanLines_sublist (r := { r with exact := true }) (s := { r with exact := false }) rfl
    (fun line hline haccepts => ?_) file
  rw [Request.acceptsLine_of_exact rfl] at haccepts
  rw [Request.acceptsLine_of_substring rfl]
  cases hcase : r.caseSensitive with
  | true =>
    rw [hcase] at haccepts
    exact Shape.accepts_of_declares haccepts
  | false =>
    rw [hcase] at haccepts
    refine Shape.accepts_of_declaresInForm (hforms.resolve_left ?_ line hline haccepts)
    rw [hcase]
    exact Bool.false_ne_true

/-- A search for `ΟΔΟΣ` that ignores case. -/
def requestForOdos : Request :=
  { Searcher.requestFor "ΟΔΟΣ" false (by decide) with caseSensitive := false }

/-- The hypothesis of `exact_results_are_substring_results` is satisfiable: two classes are declared
in the forms of the query, each with a final sigma, and a longer name is not declared at all. -/
theorem exact_results_are_substring_results_odos :
    (∀ line ∈ ["class ΟΔΟΣ", "class Οδος(Base)", "ΟΔΟΣΑ = 1"],
      Shape.declares line requestForOdos.query false →
        Shape.DeclaresInForm line requestForOdos.query) ∧
    (Scan.scanLines { requestForOdos with exact := true } "f"
        ["class ΟΔΟΣ", "class Οδος(Base)", "ΟΔΟΣΑ = 1"]).Sublist
      (Scan.scanLines { requestForOdos with exact := false } "f"
        ["class ΟΔΟΣ", "class Οδος(Base)", "ΟΔΟΣΑ = 1"]) := by
  have hforms : ∀ line ∈ ["class ΟΔΟΣ", "class Οδος(Base)", "ΟΔΟΣΑ = 1"],
      Shape.declares line requestForOdos.query false →
        Shape.DeclaresInForm line requestForOdos.query := by
    intro line hline hdeclares
    simp only [List.mem_cons, List.not_mem_nil, or_false] at hline
    rcases hline with rfl | rfl | rfl
    · exact ⟨.typeKeyword, ⟨0, 10, "ΟΔΟΣ".toList⟩, by decide +kernel, "class ".toList, [],
        by decide +kernel, by decide +kernel⟩
    · exact ⟨.typeKeyword, ⟨0, 10, "Οδος".toList⟩, by decide +kernel, "class ".toList,
        "(Base)".toList, by decide +kernel, by decide +kernel⟩
    · exact absurd hdeclares (by decide +kernel)
  exact ⟨hforms, exact_results_are_substring_results requestForOdos "f" _ (.inr hforms)⟩

/-- **A declared line that is not found.**  The colon behind the name is looked through, so in the
line the sigma at the end of the name is no final one, as it is in the query. -/
theorem declared_line_is_not_found :
    ¬ (Scan.scanLines { requestForOdos with exact := true } "f" ["class ΟΔΟΣ:pass"]).Sublist
      (Scan.scanLines { requestForOdos with exact := false } "f" ["class ΟΔΟΣ:pass"]) := by
  have hexact : Scan.scanLines { requestForOdos with exact := true } "f" ["class ΟΔΟΣ:pass"] =
      [⟨"f", 1, "ΟΔΟΣ", .classDecl, ">>> class ΟΔΟΣ:pass"⟩] := by decide +kernel
  have hsubstring : Scan.scanLines { requestForOdos with exact := false } "f"
      ["class ΟΔΟΣ:pass"] = [] := by decide +kernel
  rw [hexact, hsubstring]
  exact fun h => nomatch h

namespace NameTest

/-- **When ignoring case loses no name**: in exact mode, and for a query whose capital sigmas are
settled. The lower case of such a query is found in the lower case of every text that holds it
(`Text.lowerBetween_of_sigmasSettled`); any other query has a text around it in which a sigma takes
its other form (`Text.exists_infix_not_infix_lowerChars`). -/
theorem accepts_ignoring_case_iff (query : String) (exact : Bool) :
    (∀ candidate, accepts ⟨query, exact, true⟩ candidate →
        accepts ⟨query, exact, false⟩ candidate) ↔
      exact = true ∨ Text.sigmasSettled query.toList := by
  cases exact with
  | true =>
    refine iff_of_true (fun candidate h => ?_) (.inl rfl)
    have heq : candidate.toList = query.toList := by simpa [accepts] using h
    simp [accepts, heq]
  | false =>
    simp only [accepts_substring_iff, if_true, Bool.false_eq_true, if_false, false_or]
    constructor
    · intro h
      by_contra hsettled
      obtain ⟨candidate, hwithin, hlost⟩ :=
        Text.exists_infix_not_infix_lowerChars (Bool.eq_false_iff.2 hsettled)
      have hkept := h (String.ofList candidate)
      rw [String.toList_ofList] at hkept
      exact hlost (hkept hwithin)
    · rintro hsettled candidate ⟨front, back, hcandidate⟩
      rw [← hcandidate, ← Text.lowerBetween_of_sigmasSettled hsettled front.reverse back]
      exact Text.infix_lowerChars front query.toList back

end NameTest

namespace Python

/-- A unit with one symbol. -/
def Project.ofName (name : String) : Project where
  unit := .here
  root := .here
  modules := []
  symbols := [⟨name, name, "class", ⟨"m.py", 1, 0⟩, [], []⟩]
  skipped := []

/-- **When ignoring case loses no symbol of any unit.** -/
theorem find_ignoring_case_iff (query : String) (exact : Bool) :
    (∀ p : Project, (p.find ⟨query, exact, true⟩).Sublist (p.find ⟨query, exact, false⟩)) ↔
      exact = true ∨ Text.sigmasSettled query.toList := by
  rw [← NameTest.accepts_ignoring_case_iff]
  constructor
  · intro h candidate haccepts
    have hsize := (h (.ofName candidate)).length_le
    by_contra hlost
    simp [Project.find, Project.ofName, haccepts, hlost] at hsize
  · intro h p
    exact List.monotone_filter_right p.symbols fun s => h s.name

end Python

/-- **When ignoring case loses no line of any text.** In exact mode a line is tested by what it
declares, which is more when case is ignored; otherwise it is tested as a name is, and a text of one
line tells. -/
theorem Scan.scanLines_ignoring_case_iff (r : Request) :
    (∀ file lines, (scanLines { r with caseSensitive := true } file lines).Sublist
        (scanLines { r with caseSensitive := false } file lines)) ↔
      r.exact = true ∨ Text.sigmasSettled r.query.toList := by
  by_cases hexact : r.exact = true
  · have haccepts (caseSensitive : Bool) (line : String) :
        { r with caseSensitive }.acceptsLine line = Shape.declares line r.query caseSensitive :=
      Request.acceptsLine_of_exact (r := { r with caseSensitive }) hexact line
    refine iff_of_true (fun file lines => ?_) (.inl hexact)
    refine scanLines_sublist (r := { r with caseSensitive := true })
      (s := { r with caseSensitive := false }) rfl (fun line _ hline => ?_) file
    rw [haccepts] at hline ⊢
    exact Shape.declares_of_caseSensitive hline
  · have hnames := NameTest.accepts_ignoring_case_iff r.query false
    rw [or_iff_right Bool.false_ne_true] at hnames
    rw [or_iff_right hexact, ← hnames]
    have haccepts (caseSensitive : Bool) (line : String) :
        { r with caseSensitive }.acceptsLine line =
          NameTest.accepts ⟨r.query, false, caseSensitive⟩ line :=
      Request.acceptsLine_of_substring (r := { r with caseSensitive }) (by simpa using hexact) line
    constructor
    · intro h candidate hcandidate
      -- A text of one line tells whether that line is lost.
      have hline := acceptsLine_of_scanLines_sublist (h "" [candidate])
      rw [haccepts, haccepts] at hline
      exact hline hcandidate
    · intro h file lines
      refine scanLines_sublist (r := { r with caseSensitive := true })
        (s := { r with caseSensitive := false }) rfl (fun line _ hline => ?_) file
      rw [haccepts] at hline ⊢
      exact h line hline

/-- **When ignoring case loses nothing.**  A search that ignores case finds what it finds with
regard to case, among names, in the lines of a text and in a unit, each time in exact mode and for
the queries whose capital sigmas are settled, and for no others. -/
theorem ignoring_case_keeps_results_iff (query : String) (exact : Bool) (r : Request) :
    ((∀ candidate, NameTest.accepts ⟨query, exact, true⟩ candidate →
        NameTest.accepts ⟨query, exact, false⟩ candidate) ↔
      exact = true ∨ Text.sigmasSettled query.toList) ∧
    ((∀ file lines,
        (Scan.scanLines { r with caseSensitive := true } file lines).Sublist
          (Scan.scanLines { r with caseSensitive := false } file lines)) ↔
      r.exact = true ∨ Text.sigmasSettled r.query.toList) ∧
    ((∀ p : Python.Project,
        (p.find ⟨query, exact, true⟩).Sublist (p.find ⟨query, exact, false⟩)) ↔
      exact = true ∨ Text.sigmasSettled query.toList) :=
  ⟨NameTest.accepts_ignoring_case_iff query exact, Scan.scanLines_ignoring_case_iff r,
    Python.find_ignoring_case_iff query exact⟩

/-- **A name that is lost by ignoring case.**  Behind the query the longer name goes on, so its
sigma is no final one, as it is in the query. -/
theorem name_is_lost_ignoring_case :
    NameTest.accepts ⟨"ΟΔΟΣ", false, true⟩ "ΟΔΟΣΑ" = true ∧
      NameTest.accepts ⟨"ΟΔΟΣ", false, false⟩ "ΟΔΟΣΑ" = false := by
  constructor <;> decide +kernel

end DeclSearch
