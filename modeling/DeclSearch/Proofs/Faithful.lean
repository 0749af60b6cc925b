/-
# Results are faithful to their files

A result comes from a line of a scanned file or from a location that a backend has given, and a
backend may give any location.  Either way the file is read and the line is picked from it before
there is a result, so the line of a result is one of its file's and its preview shows the lines
around it (`Match.Faithful`).  A location that is no line of its file gives no result, and it is a
failure of the unit that has asked for it, with a warning (`exists_failure_of_not_shown`,
`Completes.warned`).

A text search scans no file twice and has at most one match for a line, so there no line is reported
twice (`nodup_lines_textMatches`).
-/

import DeclSearch.Proofs.Policy
import DeclSearch.Proofs.Previews
import DeclSearch.Proofs.WalkOrder

namespace DeclSearch

open Workspace (Path Tree)

variable {H S σ : Type}

/-- What a match says is so: its file can be read, its line is one of the lines there, and cut at
its breaks its preview shows the lines around that line, which is the only one with the mark of a
target. -/
structure Match.Faithful (tree : Tree) (m : Match) (lines : List String) (line : String) :
    Prop where
  read : tree.readLines (Path.ofString m.file) = .ok lines
  line_pos : 1 ≤ m.line
  line_le : m.line ≤ lines.length
  target : lines[m.line.toNat - 1]? = some line
  context : Text.cut '\n' m.context = Preview.entries lines m.line
  marked : (Text.cut '\n' m.context).filter Preview.isMarked = [">>> " ++ line]

/-- Whether a line passes the test of a text search: in exact mode it declares the query in one of
the shapes, and otherwise it contains it. -/
def Request.acceptsLine (r : Request) (line : String) : Bool :=
  if r.exact then Shape.declares line r.query r.caseSensitive
  else NameTest.accepts ⟨r.query, false, r.caseSensitive⟩ line

variable {tree : Tree} {r : Request}

/-- A match is faithful if its preview is that of a line of its file. -/
theorem Match.faithful_of_text {m : Match} {lines : List String} {index : Nat}
    (hread : tree.readLines (Path.ofString m.file) = .ok lines) (hindex : index < lines.length)
    (hline : m.line = index + 1) (hcontext : m.context = Preview.text lines index) :
    m.Faithful tree lines lines[index] := by
  have hentries : Text.cut '\n' m.context = Preview.entries lines m.line := by
    rw [hcontext, hline, Preview.cut_text hindex (Tree.notMem_of_readLines hread)]
  refine ⟨hread, by omega, by omega, ?_, hentries, ?_⟩
  · rw [show m.line.toNat - 1 = index by omega, List.getElem?_eq_getElem hindex]
  · rw [hentries, hline, Preview.filter_isMarked_entries hindex]

/-- A line that has a kind for a request is accepted by it. -/
theorem acceptsLine_of_kindOfLine? {line : String} {kind : Kind}
    (h : Scan.kindOfLine? r line = some kind) : r.acceptsLine line := by
  unfold Scan.kindOfLine? at h
  unfold Request.acceptsLine
  split at h
  · next hexact =>
    rw [if_pos hexact]
    unfold Shape.classify at h
    split at h
    · next hdeclares => exact hdeclares
    · exact nomatch h
  · next hexact =>
    rw [if_neg hexact]
    split at h
    · next haccepts => exact haccepts
    · exact nomatch h

namespace Searcher

variable {searcher : Searcher H S σ}

/-- A location that is shown gives a faithful match. -/
theorem faithful_of_matchAt {name : String} {kind : Kind} {l : Location} {m : Match}
    (h : matchAt tree name kind l = .ok m) : ∃ lines line, m.Faithful tree lines line := by
  unfold matchAt at h
  split at h
  · exact nomatch h
  · next lines hread =>
    obtain ⟨context, hcontext, h⟩ := Except.bind_eq_ok_iff.1 h
    have hm : (⟨l.file, l.line, name, kind, context⟩ : Match) = m := Except.ok.inj h
    unfold Preview.extract at hcontext
    split at hcontext
    · next hbounds =>
      obtain ⟨index, hindex⟩ := Int.eq_ofNat_of_zero_le hbounds.1
      rw [hindex] at hcontext hbounds
      have hline : m.line = index + 1 := by
        rw [← hm]
        change l.line = index + 1
        omega
      refine ⟨lines, _, Match.faithful_of_text (by rw [← hm]; exact hread)
        (Int.ofNat_lt.1 hbounds.2) hline ?_⟩
      rw [← hm]
      exact (Except.ok.inj hcontext).symm
    · exact nomatch hcontext

/-- **The matches of a unit are faithful**, whatever its backend does. -/
theorem faithful_of_mem_unitMatches {unit : Path} {m : Match}
    (hm : m ∈ searcher.unitMatches tree r unit) : ∃ lines line, m.Faithful tree lines line := by
  obtain ⟨handle, s, reports, -, hs, hm, -⟩ := exists_of_mem_unitMatches hm
  obtain ⟨name, kind, l, hl⟩ := exists_matchAt_of_mem hs hm
  exact faithful_of_matchAt hl

/-- The lines of a candidate are those of the file. -/
theorem readLines_of_candidateLines {settings : Settings} {file : Path} {lines : List String}
    (h : TextSearch.candidateLines settings tree file = .ok lines) :
    tree.readLines file = .ok lines := by
  unfold TextSearch.candidateLines at h
  split at h
  · exact nomatch h
  · exact nomatch h
  · split at h
    · exact nomatch h
    · next hread => rw [hread, Except.ok.inj h]

/-- A match in a list of lines is that of one of them. -/
theorem exists_of_mem_scanLines {file : String} {lines : List String} {m : Match}
    (hm : m ∈ Scan.scanLines r file lines) :
    ∃ (index : Nat) (hindex : index < lines.length) (kind : Kind),
      Scan.kindOfLine? r lines[index] = some kind ∧
        m = ⟨file, index + 1, r.query, kind, Preview.text lines index⟩ := by
  obtain ⟨entry, hentry, hmatch⟩ := List.mem_filterMap.1 hm
  obtain ⟨kind, hkind, rfl⟩ := Option.map_eq_some_iff.1 hmatch
  obtain ⟨hindex, hline⟩ := List.getElem?_eq_some_iff.1 (List.mem_zipIdx_iff_getElem?.1 hentry)
  exact ⟨entry.2, hindex, kind, by rw [hline]; exact hkind, rfl⟩

/-- A match in a candidate file is that of one of its lines. -/
theorem exists_of_mem_fileMatches {file : Path} {m : Match}
    (hm : m ∈ searcher.fileMatches tree r file) :
    ∃ (lines : List String) (index : Nat) (hindex : index < lines.length) (kind : Kind),
      tree.readLines file = .ok lines ∧ Scan.kindOfLine? r lines[index] = some kind ∧
        m = ⟨file.render, index + 1, r.query, kind, Preview.text lines index⟩ := by
  unfold fileMatches TextSearch.scanFile at hm
  rcases hlines : TextSearch.candidateLines searcher.settings tree file with fault | lines
  · simp [hlines, Except.map, Except.toOption] at hm
  · replace hm : m ∈ Scan.scanLines r file.render lines := by
      simpa [hlines, Except.map, Except.toOption] using hm
    obtain ⟨index, hindex, kind, hmatch⟩ := exists_of_mem_scanLines hm
    exact ⟨lines, index, hindex, kind, readLines_of_candidateLines hlines, hmatch⟩

/-- **The matches of a text search are faithful**, and their lines pass its test. -/
theorem faithful_of_mem_textMatches (hroot : r.root.Proper) {m : Match}
    (hm : m ∈ searcher.textMatches tree r) :
    ∃ lines line, m.Faithful tree lines line ∧ r.acceptsLine line := by
  obtain ⟨file, hfile, hm⟩ := List.mem_flatMap.1 hm
  obtain ⟨lines, index, hindex, kind, hread, hkind, rfl⟩ := exists_of_mem_fileMatches hm
  have hproper : Path.ofString file.render = file :=
    Path.ofString_render (Tree.proper_of_mem_walk hroot file hfile)
  exact ⟨lines, _, Match.faithful_of_text (by rw [hproper]; exact hread) hindex rfl rfl,
    acceptsLine_of_kindOfLine? hkind⟩

/-- The matches in a list of lines come in the order of the lines. -/
theorem pairwise_line_scanLines (r : Request) (file : String) (lines : List String) :
    (Scan.scanLines r file lines).Pairwise fun a b => a.line < b.line := by
  have hindices : (lines.zipIdx).Pairwise fun a b => a.2 < b.2 := by
    rw [← List.pairwise_map (f := Prod.snd) (R := (· < ·)), List.zipIdx_map_snd]
    exact List.pairwise_lt_range'
  rw [Scan.scanLines, List.pairwise_filterMap]
  refine hindices.imp fun {a b} hab m hm other hother => ?_
  obtain ⟨kind, -, rfl⟩ := Option.map_eq_some_iff.1 hm
  obtain ⟨kind', -, rfl⟩ := Option.map_eq_some_iff.1 hother
  change ((a.2 : Int) + 1) < b.2 + 1
  omega

/-- The matches in a candidate file come in the order of its lines. -/
theorem pairwise_line_fileMatches (file : Path) :
    (searcher.fileMatches tree r file).Pairwise fun a b => a.line < b.line := by
  unfold fileMatches TextSearch.scanFile
  rcases TextSearch.candidateLines searcher.settings tree file with fault | lines
  · exact List.Pairwise.nil
  · exact pairwise_line_scanLines r file.render lines

/-- **A text search goes through the lines of a file once**, from the first to the last. -/
theorem pairwise_line_textMatches (hroot : r.root.Proper) :
    (searcher.textMatches tree r).Pairwise fun a b => a.file = b.file → a.line < b.line := by
  have hwalked : ∀ file ∈ TextSearch.candidates searcher.settings tree r,
      Path.ofString file.render = file :=
    fun file hfile => Path.ofString_render (Tree.proper_of_mem_walk hroot file hfile)
  rw [textMatches, List.pairwise_flatMap]
  refine ⟨fun file _ => (pairwise_line_fileMatches file).imp fun {a b} hab => ?_, ?_⟩
  · exact fun _ => hab
  refine (Tree.nodup_walk r.root _).imp_of_mem fun {a b} ha hb hab x hx y hy hsame => ?_
  obtain ⟨_, _, _, _, -, -, rfl⟩ := exists_of_mem_fileMatches hx
  obtain ⟨_, _, _, _, -, -, rfl⟩ := exists_of_mem_fileMatches hy
  have hrender : a.render = b.render := hsame
  exact absurd (by rw [← hwalked a ha, ← hwalked b hb, hrender]) hab

/-- **A text search reports no line twice.** -/
theorem nodup_lines_textMatches (hroot : r.root.Proper) :
    ((searcher.textMatches tree r).map fun m => (m.file, m.line)).Nodup := by
  rw [List.Nodup, List.pairwise_map]
  refine (pairwise_line_textMatches hroot).imp fun {a b} hab hsame => ?_
  obtain ⟨hfile, hline⟩ := Prod.mk.inj hsame
  exact absurd hline (Int.ne_of_lt (hab hfile))

/-- The warnings of a completed search hold those that there were, and those about the units that it
has compiled. -/
theorem Completes.warned {levels : List Level} {record after : Record H σ} {o : Outcome}
    (h : searcher.Completes tree r levels record o after) :
    (∀ w ∈ record.warnings, w ∈ o.warnings) ∧
      ∀ unit ∈ after.events.filterMap Event.compiling?,
        unit ∈ record.events.filterMap Event.compiling? ∨
          ∀ w ∈ searcher.failureWarnings tree r unit, w ∈ o.warnings := by
  induction h with
  | text =>
    refine ⟨fun w hw => List.mem_append_left _ hw, fun unit hunit => .inl ?_⟩
    rwa [(filterMap_textRecord _).1] at hunit
  | answered _ _ _ =>
    refine ⟨fun w hw => List.mem_append_left _ hw, fun unit hunit => ?_⟩
    rw [(filterMap_tierRecord _ _).1, List.mem_append] at hunit
    refine hunit.imp_right fun hunit w hw => List.mem_append_right _ ?_
    exact List.mem_flatMap.2 ⟨unit, hunit, hw⟩
  | passed _ _ _ _ ih =>
    obtain ⟨hwarnings, hunits⟩ := ih
    refine ⟨fun w hw => hwarnings w (List.mem_append_left _ hw), fun unit hunit => ?_⟩
    rcases hunits unit hunit with hunit | hunit
    · rw [(filterMap_tierRecord _ _).1, List.mem_append] at hunit
      refine hunit.imp_right fun hunit w hw => hwarnings w (List.mem_append_right _ ?_)
      exact List.mem_flatMap.2 ⟨unit, hunit, hw⟩
    · exact .inr hunit

/-- A location that a request asks a backend for: where a symbol is declared, and where it is used
if the request asks for references. -/
def AsksFor (searcher : Searcher H S σ) (r : Request) (handle : H) (s : S) (l : Location) : Prop :=
  (∃ declared, searcher.backend.declarations s = .ok declared ∧ l ∈ declared) ∨
    (r.references = true ∧ ∃ used, searcher.backend.references s handle = .ok used ∧ l ∈ used)

/-- **A unit fails if a location that it is asked for cannot be shown.** -/
theorem exists_failure_of_not_shown {unit : Path} {handle : H} {symbols : List S}
    (hcompile : searcher.backend.compile tree unit = .ok handle)
    (hfind : searcher.backend.find handle r.nameTest = .ok symbols) {s : S} (hs : s ∈ symbols)
    {l : Location} (hl : searcher.AsksFor r handle s l) (hshown : ¬ l.Shown tree) :
    ∃ f, searcher.unitAnswer tree r unit = .error f := by
  rcases hanswer : searcher.unitAnswer tree r unit with f | batch
  · exact ⟨f, rfl⟩
  obtain ⟨_, hcompile', _, hfind', hanswerable⟩ := exists_unitAnswer_eq_ok_iff.1 ⟨batch, hanswer⟩
  obtain rfl := Except.ok.inj (hcompile.symm.trans hcompile')
  obtain rfl := Except.ok.inj (hfind.symm.trans hfind')
  obtain ⟨-, ⟨declared, hdeclared, hdeclaredShown⟩, hused⟩ := hanswerable s hs
  rcases hl with ⟨_, hlocations, hl⟩ | ⟨hreferences, _, hlocations, hl⟩
  · obtain rfl := Except.ok.inj (hdeclared.symm.trans hlocations)
    exact absurd (hdeclaredShown l hl) hshown
  · obtain ⟨used, hused, husedShown⟩ := hused hreferences
    obtain rfl := Except.ok.inj (hused.symm.trans hlocations)
    exact absurd (husedShown l hl) hshown

/-- **Every result is faithful to its file.**  Whatever the backend does, of every result of a
completed search the file can be read, the line is one of its lines, and the preview shows the lines
at most two away from it, with the mark of a target at it and nowhere else.  A unit that was asked
for a location which is no line of a file that can be read has failed, with a warning.  Where the
text has answered, the line of every result passes the test of the request, and no line of a file is
reported twice. -/
theorem results_are_faithful (hroot : r.root.Proper) {state : σ} {o : Outcome}
    {after : Record H σ} (h : (searcher.search tree r).start state = (.ok o, after)) :
    (∀ m ∈ o.results, ∃ lines line, m.Faithful tree lines line ∧
      (o.strategy = "text" → r.acceptsLine line)) ∧
    (∀ unit ∈ after.events.filterMap Event.compiling?, ∀ handle symbols,
      searcher.backend.compile tree unit = .ok handle →
      searcher.backend.find handle r.nameTest = .ok symbols →
      ∀ s ∈ symbols, ∀ l, searcher.AsksFor r handle s l → ¬ l.Shown tree →
        ∃ f, searcher.unitAnswer tree r unit = .error f ∧ unitWarning unit f.shown ∈ o.warnings) ∧
    (o.strategy = "text" → (o.results.map fun m => (m.file, m.line)).Nodup) := by
  obtain ⟨levels, hcompletes⟩ := completes_of_result_search h
  refine ⟨?_, ?_, ?_⟩
  · intro m hm
    rcases hcompletes.answered_or_text with ⟨-, hresults⟩ | ⟨level, units, hanswered⟩
    · rw [hresults] at hm
      obtain ⟨lines, line, hfaithful, haccepts⟩ :=
        faithful_of_mem_textMatches hroot hm
      exact ⟨lines, line, hfaithful, fun _ => haccepts⟩
    · rw [hanswered.results, ← distinctSites_nil] at hm
      obtain ⟨unit, -, hm⟩ := List.mem_flatMap.1 (mem_of_mem_distinctSites hm).1
      obtain ⟨lines, line, hfaithful⟩ := faithful_of_mem_unitMatches hm
      refine ⟨lines, line, hfaithful, fun htext => ?_⟩
      rw [hanswered.strategy] at htext
      cases level <;> exact absurd htext (by decide)
  · intro unit hunit handle symbols hcompile hfind s hs l hl hshown
    obtain ⟨f, hf⟩ := exists_failure_of_not_shown hcompile hfind hs hl hshown
    refine ⟨f, hf, ?_⟩
    refine (hcompletes.warned.2 unit hunit).resolve_left (by simp) _ ?_
    rw [failureWarnings, hf]
    exact List.mem_singleton.2 rfl
  · intro htext
    rcases hcompletes.answered_or_text with ⟨-, hresults⟩ | ⟨level, units, hanswered⟩
    · rw [hresults]
      exact nodup_lines_textMatches hroot
    · rw [hanswered.strategy] at htext
      cases level <;> exact absurd htext (by decide)

/-- The hypotheses of `results_are_faithful` are satisfiable: of the units of `halfBroken` the first
is asked for a line behind the end of the file and fails, and the result of the second is
faithful. -/
theorem results_are_faithful_halfBroken :
    requestForA.root.Proper ∧ ∃ o after,
      (halfBroken.search oneLineTree requestForA).start [] = (.ok o, after) ∧
      o.results = [⟨"x.py", 1, "m.A", .classDecl, ">>> a"⟩] ∧
      o.warnings = ["Could not analyze bad: target_index 6 out of range for 1 lines"] ∧
      ∀ m ∈ o.results, ∃ lines line, m.Faithful oneLineTree lines line := by
  have hroot : requestForA.root.Proper := by decide +kernel
  have hsearch : ((halfBroken.search oneLineTree requestForA).start []).1 =
      .ok ⟨requestForA, [⟨"x.py", 1, "m.A", .classDecl, ">>> a"⟩], "solution",
        ["Could not analyze bad: target_index 6 out of range for 1 lines"]⟩ := by
    decide +kernel
  refine ⟨hroot, _, _, Prod.ext hsearch rfl, rfl, rfl, fun m hm => ?_⟩
  obtain ⟨lines, line, hfaithful, -⟩ :=
    (results_are_faithful hroot (Prod.ext hsearch rfl)).1 m hm
  exact ⟨lines, line, hfaithful⟩

end Searcher
end DeclSearch
