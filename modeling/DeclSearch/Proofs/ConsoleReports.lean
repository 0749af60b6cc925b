/-
# The console report can be read back

The report in labelled lines shows source text between its labels, and a source line may look like
any line of a report.  It is told apart by the mark of four characters that a preview puts in front
of it: no line of a context is empty, so the first empty line behind a label ends the block, and
none starts like the trailer (`Report.cut_context`).

So the lines of a report are those of its blocks one after another (`Report.cut_console`), blocks
that give the same lines are the same (`Report.eq_of_flatMap_blockLines`), and the report determines
what it shows (`Report.console_is_unambiguous`).
-/

import DeclSearch.Proofs.JsonReading
import DeclSearch.Proofs.Parts
import DeclSearch.Proofs.Previews
import DeclSearch.Report

namespace DeclSearch

open Text (cut join)

/-- A number is written with digits. -/
theorem Text.isDigit_of_mem_nat {n : Nat} {c : Char} (h : c ∈ (toString n).toList) :
    c.isDigit = true := by
  rw [Nat.toString_eq_repr, Nat.toList_repr] at h
  exact Nat.isDigit_of_mem_toDigits (by decide) (by decide) h

/-- An integer is written with digits and a sign. -/
theorem Text.eq_sign_or_isDigit_of_mem_int {n : Int} {c : Char} (h : c ∈ (toString n).toList) :
    c = '-' ∨ c.isDigit = true := by
  rw [Int.toString_eq_repr, Int.repr_eq_if] at h
  split at h
  · exact .inr (isDigit_of_mem_nat h)
  · rw [String.toList_append] at h
    exact (List.mem_append.1 h).imp List.mem_singleton.1 isDigit_of_mem_nat

/-- A kind is read back from its text. -/
theorem Kind.ofText?_text (k : Kind) : ofText? k.text = some k := by
  cases k <;> rfl

/-- No two kinds have one word. -/
theorem Kind.text_injective : Function.Injective Kind.text := by
  intro k k' h
  exact Option.some.inj (k.ofText?_text ▸ k'.ofText?_text ▸ congrArg ofText? h)

/-- Whether a match has no line breaks but those between the lines of its context, which is the
preview of a line. -/
structure Match.Unbroken (m : Match) : Prop where
  file : '\n' ∉ m.file.toList
  name : '\n' ∉ m.name.toList
  context : ∃ lines index, (∀ line ∈ lines, '\n' ∉ line.toList) ∧
    Preview.extract lines index = .ok m.context

/-- Whether there are no line breaks in the query of an outcome and in its matches. -/
structure Outcome.Unbroken (o : Outcome) : Prop where
  query : '\n' ∉ o.request.query.toList
  results : ∀ m ∈ o.results, m.Unbroken

namespace Report

/-- The lines of a match in the labelled report. -/
def blockLines (m : Match) : List String :=
  ["File: " ++ m.file, "Line: " ++ toString m.line, "Type: " ++ m.name, "Kind: " ++ m.kind.text] ++
    (cut '\n' ("Context: " ++ m.context) ++ [""])

/-- The first line of the labelled report. -/
def headline (o : Outcome) : String :=
  "Found " ++ toString o.results.length ++ " result(s) for type '" ++ o.request.query ++ "':"

/-- The lines of the labelled report. -/
def consoleLines (o : Outcome) : List String :=
  [headline o, ""] ++ (o.displayed.flatMap blockLines ++ trailer o)

/-- Whether a line starts like the trailer. -/
def isTrailer (line : String) : Bool := "... and ".toList.isPrefixOf line.toList

/-- A line that starts with another character than a dot is neither the trailer nor empty. -/
theorem isTrailer_append_eq_false {front : String} {c : Char} (h : front.toList.head? = some c)
    (hc : c ≠ '.') (rest : String) : isTrailer (front ++ rest) = false ∧ front ++ rest ≠ "" := by
  obtain ⟨cs, hcs⟩ := List.head?_eq_some_iff.1 h
  have hline : (front ++ rest).toList = c :: (cs ++ rest.toList) := by simp [hcs]
  refine ⟨?_, fun hnil => ?_⟩
  · have hdot : ('.' == c) = false := beq_false_of_ne hc.symm
    simp [isTrailer, hline, List.isPrefixOf, hdot]
  · simp [hnil] at hline

/-- **No line of a context is empty or looks like the trailer**: it starts with the label or with a
mark. -/
theorem cut_context {m : Match} (h : m.Unbroken) :
    ∀ line ∈ cut '\n' ("Context: " ++ m.context), isTrailer line = false ∧ line ≠ "" := by
  obtain ⟨lines, index, hlines, hcontext⟩ := h.context
  have hmarked : ∀ line ∈ cut '\n' m.context, isTrailer line = false ∧ line ≠ "" := by
    unfold Preview.extract at hcontext
    split at hcontext
    · next hindex =>
      rw [← Except.ok.inj hcontext, Preview.cut_text (by omega) hlines]
      intro line hline
      obtain ⟨entry, -, rfl⟩ := List.mem_map.1 hline
      split
      · exact isTrailer_append_eq_false rfl (by decide : '>' ≠ '.') entry.1
      · exact isTrailer_append_eq_false rfl (by decide : ' ' ≠ '.') entry.1
    · exact nomatch hcontext
  obtain ⟨first, rest, hcut, hlabelled⟩ :=
    Text.cut_append_of_notMem (by decide : '\n' ∉ "Context: ".toList) m.context
  rw [hlabelled, List.forall_mem_cons]
  refine ⟨isTrailer_append_eq_false rfl (by decide : 'C' ≠ '.') first, fun line hline => ?_⟩
  exact hmarked line (hcut ▸ List.mem_cons_of_mem _ hline)

/-- A label and a text without breaks are one line. -/
theorem cut_label {label s : String} (hlabel : '\n' ∉ label.toList) (hs : '\n' ∉ s.toList) :
    cut '\n' (label ++ s) = [label ++ s] := by
  refine Text.cut_of_notMem ?_
  rw [String.toList_append, List.mem_append]
  exact not_or.2 ⟨hlabel, hs⟩

/-- No number is written with a break. -/
theorem break_notMem_toString (n : Int) : '\n' ∉ (toString n).toList := by
  intro h
  obtain h | h := Text.eq_sign_or_isDigit_of_mem_int h
  · exact absurd h (by decide)
  · exact absurd h (by decide)

/-- The lines of a match, cut, are the lines of its block. -/
theorem flatMap_cut_consoleBlock {m : Match} (h : m.Unbroken) :
    (consoleBlock m).flatMap (cut '\n') = blockLines m := by
  have hfile := cut_label (by decide : '\n' ∉ "File: ".toList) h.file
  have hline := cut_label (by decide : '\n' ∉ "Line: ".toList) (break_notMem_toString m.line)
  have hname := cut_label (by decide : '\n' ∉ "Type: ".toList) h.name
  have hkind := cut_label (by decide : '\n' ∉ "Kind: ".toList)
    (by cases m.kind <;> decide : '\n' ∉ m.kind.text.toList)
  have hempty : cut '\n' "" = [""] := rfl
  simp only [consoleBlock, blockLines, List.flatMap_cons, List.flatMap_nil, hfile, hline, hname,
    hkind, hempty, List.append_nil]
  rfl

/-- The first line of a report is one line. -/
theorem cut_headline {o : Outcome} (h : o.Unbroken) : cut '\n' (headline o) = [headline o] := by
  refine Text.cut_of_notMem ?_
  simp only [headline, String.toList_append, List.mem_append, not_or]
  exact ⟨⟨⟨⟨by decide, break_notMem_toString o.results.length⟩, by decide⟩, h.query⟩, by decide⟩

/-- The trailer is one line, if there is one. -/
theorem flatMap_cut_trailer (o : Outcome) : (trailer o).flatMap (cut '\n') = trailer o := by
  unfold trailer
  split
  · rfl
  · rw [List.flatMap_singleton]
    refine Text.cut_of_notMem ?_
    simp only [String.toList_append, List.mem_append, not_or]
    exact ⟨⟨by decide, break_notMem_toString o.hiddenCount⟩, by decide⟩

/-- A report on matches is a headline, an empty line, a block for each match that is displayed, and
a trailer. -/
theorem console_of_ne_nil {o : Outcome} (h : o.results ≠ []) :
    console o = join (String.singleton '\n')
      ([headline o, ""] ++ o.displayed.flatMap consoleBlock ++ trailer o) :=
  if_neg (mt List.isEmpty_iff.1 h)

/-- **The lines of a report** are those of its blocks one after another. -/
theorem cut_console {o : Outcome} (h : o.Unbroken) (hresults : o.results ≠ []) :
    cut '\n' (console o) = consoleLines o := by
  have hblocks : (o.displayed.flatMap consoleBlock).flatMap (cut '\n') =
      o.displayed.flatMap blockLines := by
    rw [List.flatMap_assoc]
    exact List.flatMap_congr fun m hm =>
      flatMap_cut_consoleBlock (h.results m (List.mem_of_mem_take hm))
  rw [console_of_ne_nil hresults, Text.cut_join_eq_flatMap (by simp), List.flatMap_append,
    List.flatMap_append, hblocks, flatMap_cut_trailer, List.flatMap_cons, cut_headline h,
    List.append_assoc]
  rfl

/-- A block can be told from its lines, whatever stands behind it. -/
theorem eq_of_blockLines_append {m other : Match} {rest more : List String} (hm : m.Unbroken)
    (hother : other.Unbroken) (h : blockLines m ++ rest = blockLines other ++ more) :
    m = other ∧ rest = more := by
  simp only [blockLines, List.append_assoc, List.cons_append, List.nil_append, List.cons.injEq,
    String.append_right_inj] at h
  obtain ⟨hfile, hline, hname, hkind, hbehind⟩ := h
  -- No line of a context is empty, so each of the contexts ends at the first empty line.
  obtain ⟨hlines, hends⟩ := Text.eq_of_append_cons_eq (p := (· = ""))
    (fun line hmem => (cut_context hm line hmem).2)
    (fun line hmem => (cut_context hother line hmem).2) rfl rfl hbehind
  have hcontext : m.context = other.context := by
    have hjoin := congrArg (join (String.singleton '\n')) hlines
    rwa [Text.join_cut, Text.join_cut, String.append_right_inj] at hjoin
  refine ⟨?_, List.tail_eq_of_cons_eq hends⟩
  obtain ⟨file, line, name, kind, context⟩ := m
  obtain rfl : file = other.file := hfile
  obtain rfl : line = other.line := Text.Json.eq_of_toString_eq hline
  obtain rfl : name = other.name := hname
  obtain rfl : kind = other.kind := Kind.text_injective hkind
  obtain rfl : context = other.context := hcontext
  rfl

/-- **Blocks can be told from their lines**, whatever trailer stands behind them. A block starts
with a line that is none of a trailer, so it is known where the blocks end, and the first of them is
known from its lines (`eq_of_blockLines_append`). -/
theorem eq_of_flatMap_blockLines {ms others : List Match} {end₁ end₂ : List String}
    (hms : ∀ m ∈ ms, m.Unbroken) (hothers : ∀ m ∈ others, m.Unbroken)
    (hend₁ : ∀ line ∈ end₁, isTrailer line = true) (hend₂ : ∀ line ∈ end₂, isTrailer line = true)
    (h : ms.flatMap blockLines ++ end₁ = others.flatMap blockLines ++ end₂) : ms = others := by
  have hstart {m : Match} {rest lines : List String}
      (hlines : ∀ line ∈ lines, isTrailer line = true) (heq : blockLines m ++ rest = lines) :
      False := by
    have hfile := hlines ("File: " ++ m.file) (by rw [← heq]; exact List.mem_cons_self)
    rw [(isTrailer_append_eq_false rfl (by decide : 'F' ≠ '.') m.file).1] at hfile
    exact nomatch hfile
  induction ms generalizing others with
  | nil =>
    rcases others with _ | ⟨other, others⟩
    · rfl
    · rw [List.flatMap_cons, List.append_assoc] at h
      exact (hstart hend₁ h.symm).elim
  | cons m ms ih =>
    rcases others with _ | ⟨other, others⟩
    · rw [List.flatMap_cons, List.append_assoc] at h
      exact (hstart hend₂ h).elim
    · rw [List.forall_mem_cons] at hms hothers
      rw [List.flatMap_cons, List.flatMap_cons, List.append_assoc, List.append_assoc] at h
      obtain ⟨hfirst, hrest⟩ := eq_of_blockLines_append hms.1 hothers.1 h
      rw [hfirst, ih hms.2 hothers.2 hrest]

/-- The trailer looks like one. -/
theorem isTrailer_of_mem_trailer {o : Outcome} : ∀ line ∈ trailer o, isTrailer line = true := by
  unfold trailer
  split
  · exact List.forall_mem_nil _
  · rw [List.forall_mem_singleton, String.append_assoc, isTrailer, String.toList_append]
    exact List.isPrefixOf_iff_prefix.2 (List.prefix_append _ _)

/-- No line of a block looks like the trailer. -/
theorem isTrailer_of_mem_blockLines {m : Match} (hm : m.Unbroken) :
    ∀ line ∈ blockLines m, isTrailer line = false := by
  simp only [blockLines, List.forall_mem_append, List.forall_mem_cons]
  exact ⟨⟨(isTrailer_append_eq_false rfl (by decide : 'F' ≠ '.') _).1,
      (isTrailer_append_eq_false rfl (by decide : 'L' ≠ '.') _).1,
      (isTrailer_append_eq_false rfl (by decide : 'T' ≠ '.') _).1,
      (isTrailer_append_eq_false rfl (by decide : 'K' ≠ '.') _).1, List.forall_mem_nil _⟩,
    fun line hline => (cut_context hm line hline).1, rfl, List.forall_mem_nil _⟩

/-- **Only the trailer of a report looks like one.** -/
theorem filter_isTrailer_consoleLines {o : Outcome} (h : o.Unbroken) :
    (consoleLines o).filter isTrailer = trailer o := by
  have hheadline : isTrailer (headline o) = false := by
    rw [headline, String.append_assoc, String.append_assoc, String.append_assoc]
    exact (isTrailer_append_eq_false rfl (by decide : 'F' ≠ '.') _).1
  have hblocks : (o.displayed.flatMap blockLines).filter isTrailer = [] := by
    rw [List.filter_eq_nil_iff]
    intro line hline
    obtain ⟨m, hm, hline⟩ := List.mem_flatMap.1 hline
    simp [isTrailer_of_mem_blockLines (h.results m (List.mem_of_mem_take hm)) line hline]
  rw [consoleLines, List.filter_append, List.filter_append, hblocks, List.nil_append,
    List.filter_eq_self.2 isTrailer_of_mem_trailer, List.filter_cons, hheadline]
  rfl

/-- How many results there are is the second word of a report's first line. -/
theorem cut_space_headline (o : Outcome) : ∃ more,
    cut ' ' (headline o) = "Found" :: toString o.results.length :: more := by
  have hwords : headline o = "Found" ++ String.singleton ' ' ++ (toString o.results.length ++
      String.singleton ' ' ++ ("result(s) for type '" ++ o.request.query ++ "':")) := by
    rw [← String.toList_inj]
    simp [headline]
  have hcount : ' ' ∉ (toString o.results.length).toList := fun h =>
    absurd (Text.isDigit_of_mem_nat h) (by decide)
  refine ⟨cut ' ' ("result(s) for type '" ++ o.request.query ++ "':"), ?_⟩
  rw [hwords, Text.cut_append, Text.cut_append, Text.cut_of_notMem hcount]
  rfl

/-- A text starts as its front does. -/
theorem head?_append {front : String} {c : Char} (h : front.toList.head? = some c)
    (rest : String) : (front ++ rest).toList.head? = some c := by
  rw [String.toList_append, List.head?_append, h]
  rfl

/-- Whether anything was found is told by the first character of a report. -/
theorem head?_console (o : Outcome) :
    (console o).toList.head? = some (if o.results = [] then 'N' else 'F') := by
  by_cases hresults : o.results = []
  · have hnothing : console o = nothing o := if_pos (List.isEmpty_iff.2 hresults)
    rw [if_pos hresults, hnothing]
    unfold nothing
    exact head?_append (head?_append (head?_append (head?_append rfl _) _) _) _
  · rw [if_neg hresults, console_of_ne_nil hresults, List.append_assoc, List.cons_append, join,
      String.intercalate_cons_of_ne_nil (by simp)]
    exact head?_append (head?_append (head?_append (head?_append (head?_append (head?_append rfl
      _) _) _) _) _) _

/-- **The labelled report says what it shows, and no two reports are alike.**  Two outcomes have
line breaks neither in their queries nor in the files and names of their matches, and every context
is the preview of a line among lines without breaks, whatever these lines hold.  If their reports
are the same text, then they have the same number of results and show the same matches, in order.

What is shown are the first results, as many as there are but not more than the request asks for;
with the hidden ones they are all.  A line of the report looks like the trailer if and only if some
are hidden, and then it says how many. -/
theorem console_is_unambiguous {o other : Outcome} (h : o.Unbroken) (hother : other.Unbroken) :
    (console o = console other →
      o.results.length = other.results.length ∧ o.displayed = other.displayed) ∧
    o.displayed = o.results.take (min o.results.length o.request.maxResults.toNat) ∧
    o.displayed.length + o.hiddenCount = o.results.length ∧
    (o.results ≠ [] → (cut '\n' (console o)).filter isTrailer =
      if o.hiddenCount = 0 then []
      else ["... and " ++ toString o.hiddenCount ++
        " more results (use --max-results to see more)"]) := by
  refine ⟨fun hsame => ?_, ?_, ?_, fun hresults => ?_⟩
  · have hfound : o.results = [] ↔ other.results = [] := by
      have hhead := congrArg (fun s => s.toList.head?) hsame
      simp only [head?_console, Option.some.injEq] at hhead
      split at hhead <;> split at hhead <;> simp_all
    by_cases hresults : o.results = []
    · simp [Outcome.displayed, hresults, hfound.1 hresults]
    have hlines : consoleLines o = consoleLines other := by
      rw [← cut_console h hresults, ← cut_console hother (mt hfound.2 hresults), hsame]
    simp only [consoleLines, List.cons_append, List.nil_append, List.cons.injEq, true_and] at hlines
    obtain ⟨hheadline, hbehind⟩ := hlines
    refine ⟨?_, ?_⟩
    · obtain ⟨more, hmore⟩ := cut_space_headline o
      obtain ⟨more', hmore'⟩ := cut_space_headline other
      rw [hheadline, hmore'] at hmore
      have hcount := (List.cons.inj (List.cons.inj hmore).2).1
      have hint : (other.results.length : Int) = o.results.length :=
        Text.Json.eq_of_toString_eq hcount
      exact Int.ofNat.inj hint.symm
    · exact eq_of_flatMap_blockLines (fun m hm => h.results m (List.mem_of_mem_take hm))
        (fun m hm => hother.results m (List.mem_of_mem_take hm)) isTrailer_of_mem_trailer
        isTrailer_of_mem_trailer hbehind
  · rw [Outcome.displayed, List.take_eq_take_iff]
    omega
  · simp only [Outcome.hiddenCount, Outcome.displayed, List.length_take]
    omega
  · rw [cut_console h hresults, filter_isTrailer_consoleLines h, trailer]

/-- Three lines that look like lines of a report. -/
def forgedLines : List String := ["... and 2 more results", "File: x.py", ""]

/-- A match in the first of the forged lines that is shown, and one that is hidden. -/
def forged (hidden : Kind) : Outcome where
  request := ⟨.here, "x", false, false, [".py"], 1, false, rfl, by decide⟩
  results := [⟨"x.py", 1, "x", .reference, Preview.text forgedLines 0⟩,
    ⟨"x.py", 2, "x", hidden, Preview.text forgedLines 1⟩]
  strategy := "text"
  warnings := []

/-- The hypotheses of `console_is_unambiguous` are satisfiable: two outcomes differ in a match that
is hidden, their reports are the same, and one line of the report is the trailer. -/
theorem console_is_unambiguous_forged :
    (forged .reference).Unbroken ∧ (forged .classDecl).Unbroken ∧
    console (forged .reference) = console (forged .classDecl) ∧
    forged .reference ≠ forged .classDecl ∧
    (forged .reference).displayed = (forged .classDecl).displayed ∧
    (cut '\n' (console (forged .reference))).filter isTrailer =
      ["... and 1 more results (use --max-results to see more)"] := by
  have hlines : ∀ line ∈ forgedLines, '\n' ∉ line.toList := by decide
  have hforged (hidden : Kind) : (forged hidden).Unbroken := by
    have hname : '\n' ∉ "x".toList := by decide
    have hfile : '\n' ∉ "x.py".toList := by decide
    refine ⟨hname, ?_⟩
    unfold forged
    rw [List.forall_mem_cons, List.forall_mem_singleton]
    exact ⟨⟨hfile, hname, forgedLines, 0, hlines, rfl⟩,
      ⟨hfile, hname, forgedLines, 1, hlines, rfl⟩⟩
  have hsame : console (forged .reference) = console (forged .classDecl) := rfl
  obtain ⟨hequal, -, -, htrailer⟩ :=
    console_is_unambiguous (hforged .reference) (hforged .classDecl)
  refine ⟨hforged _, hforged _, hsame, by decide, (hequal hsame).2, ?_⟩
  exact htrailer (List.cons_ne_nil _ _)

end Report

end DeclSearch
