/-
# Which tier answers

The tiers of a search are the units on the solution level, the units on the project level and
the text.  The first of them that has results answers, with these results and no others
(`search_answers_first_tier`); where a level answers, no unit behind it is compiled and no file
is scanned as text.  Warnings are kept of every tier that was tried.  A tier whose units all fail
has no results, so it is passed like one in which nothing matched.  The induction is on the levels
that are left, the record being whatever the levels so far have left (`result_searchLevels`).
-/

import DeclSearch.Proofs.Levels

namespace DeclSearch

open Workspace (Path Tree)

variable {H S σ : Type}

/-- The unit that an event starts to compile. -/
def Event.compiling? : Event H → Option Path
  | .compiling unit => some unit
  | _ => none

/-- The file that an event scans as text. -/
def Event.scanned? : Event H → Option Path
  | .scanned file => some file
  | _ => none

/-- A warning is no compilation. -/
@[simp]
theorem Event.compiling?_warned (message : String) : (warned message : Event H).compiling? = none :=
  rfl

/-- A warning is no scan. -/
@[simp]
theorem Event.scanned?_warned (message : String) : (warned message : Event H).scanned? = none :=
  rfl

namespace Searcher

variable {searcher : Searcher H S σ} {tree : Tree} {r : Request}

/-- Running a unit compiles it once and scans nothing. -/
theorem filterMap_unitEvents (searcher : Searcher H S σ) (tree : Tree) (r : Request)
    (unit : Path) :
    (searcher.unitEvents tree r unit).filterMap Event.compiling? = [unit] ∧
      (searcher.unitEvents tree r unit).filterMap Event.scanned? = [] := by
  unfold unitEvents
  rcases searcher.backend.compile tree unit with f | handle
  · exact ⟨rfl, rfl⟩
  · dsimp only
    unfold asking closing
    simp only [List.filterMap_cons, List.filterMap_append, List.filterMap_replicate]
    rcases searcher.backend.release handle with f | left <;> exact ⟨rfl, rfl⟩

/-- A tier compiles its units, in order and each as often as it is one, and scans nothing. -/
theorem filterMap_tierRecord (units : List Path) (record : Record H σ) :
    (searcher.tierRecord tree r units record).events.filterMap Event.compiling? =
        record.events.filterMap Event.compiling? ++ units ∧
      (searcher.tierRecord tree r units record).events.filterMap Event.scanned? =
        record.events.filterMap Event.scanned? := by
  have hunits : (units.flatMap (searcher.unitEvents tree r)).filterMap Event.compiling? = units ∧
      (units.flatMap (searcher.unitEvents tree r)).filterMap Event.scanned? = [] := by
    induction units with
    | nil => exact ⟨rfl, rfl⟩
    | cons unit units ih =>
      obtain ⟨hcompiling, hscanned⟩ := filterMap_unitEvents searcher tree r unit
      simp [List.filterMap_append, hcompiling, hscanned, ih]
  simp [tierRecord, Record.warnedAll, Record.notingAll, List.filterMap_append, hunits]

/-- A text search compiles nothing, and it scans the candidate files, in order. -/
theorem filterMap_textRecord (record : Record H σ) :
    (searcher.textRecord tree r record).events.filterMap Event.compiling? =
        record.events.filterMap Event.compiling? ∧
      (searcher.textRecord tree r record).events.filterMap Event.scanned? =
        record.events.filterMap Event.scanned? ++
          TextSearch.candidates searcher.settings tree r := by
  unfold textRecord
  rw [events_foldl_fileRecord]
  generalize TextSearch.candidates searcher.settings tree r = files
  have hfiles : (files.flatMap fun file => (.scanned file : Event H) ::
        (searcher.fileWarnings tree r file).map .warned).filterMap Event.compiling? = [] ∧
      (files.flatMap fun file => (.scanned file : Event H) ::
        (searcher.fileWarnings tree r file).map .warned).filterMap Event.scanned? = files := by
    induction files with
    | nil => exact ⟨rfl, rfl⟩
    | cons file files ih =>
      simp [List.filterMap_append, List.filterMap_cons, Event.compiling?, Event.scanned?, ih]
  simp [List.filterMap_append, hfiles]

/-- A unit's failure stays inside where every handle can be released and the failure has a
wording. -/
theorem contained_of_release {unit : Path}
    (hrelease : ∀ handle, ∃ left, searcher.backend.release handle = .ok left)
    (hworded : ∀ f, searcher.unitAnswer tree r unit = .error f →
      ∀ name why, f ≠ .wordless name why) :
    searcher.Contained tree r unit :=
  (contained_iff unit).2 ⟨fun handle _ => hrelease handle, hworded⟩

/-- What a text search comes to on its own, with workers to run it. -/
theorem start_searchText (hroot : r.root.checkNul = .ok ()) (hsink : searcher.sink.TakesAll)
    (state : σ) (hworkers : 0 < searcher.settings.maxWorkers) :
    ((searcher.searchText tree r).start state).1 = .ok (searcher.textMatches tree r) ∧
      ((searcher.searchText tree r).start state).2.warnings = searcher.textWarnings tree r := by
  rw [Run.start_eq_result, result_searchText hroot hsink, if_pos hworkers]
  exact ⟨rfl, warnings_textRecord _⟩

/-- What a search comes to behind its last level: what a text search of its own does, with the
warnings so far in front of the text's. -/
theorem result_searchLevels_nil (tree : Tree) (state : σ) (hroot : r.root.checkNul = .ok ())
    (hsink : searcher.sink.TakesAll) (record : Record H σ) :
    ((searcher.searchLevels tree r []).result record).1 =
        ((searcher.searchText tree r).start state).1.map (fun results =>
          ⟨r, results, "text", record.warnings ++ searcher.textWarnings tree r⟩) ∧
      ((searcher.searchLevels tree r []).result record).2.events.filterMap Event.compiling? =
        record.events.filterMap Event.compiling? := by
  rw [searchLevels, Run.result_bind, Run.start_eq_result, result_searchText hroot hsink,
    result_searchText hroot hsink]
  by_cases hworkers : 0 < searcher.settings.maxWorkers
  · rw [if_pos hworkers, if_pos hworkers, ← warnings_textRecord]
    exact ⟨rfl, (filterMap_textRecord record).1⟩
  · rw [if_neg hworkers, if_neg hworkers]
    exact ⟨rfl, rfl⟩

/-- **What a search through some levels comes to.**  The first level whose units have matches
answers, and nothing is scanned; if there is none the text answers.  The units of the levels up to
there are compiled, and the warnings are theirs. -/
theorem result_searchLevels {units : Level → List Path} {levels : List Level}
    (hdiscover : ∀ level, searcher.backend.discover tree r.root level = .ok (units level))
    (hroot : r.root.checkNul = .ok ()) (hsink : searcher.sink.TakesAll)
    (hcontained : ∀ level ∈ searcher.triedLevels tree r units levels, ∀ unit ∈ units level,
      searcher.Contained tree r unit)
    (state : σ) (record : Record H σ) :
    let tried := searcher.triedLevels tree r units levels
    let found (level : Level) := (units level).flatMap (searcher.unitMatches tree r)
    let warnings := record.warnings ++
      tried.flatMap fun level => (units level).flatMap (searcher.failureWarnings tree r)
    let run := (searcher.searchLevels tree r levels).result record
    run.2.events.filterMap Event.compiling? =
      record.events.filterMap Event.compiling? ++ tried.flatMap units ∧
    match levels.find? fun level => found level ≠ [] with
    | some level =>
      run.1 = .ok ⟨r, firstReports (found level), level.name, warnings⟩ ∧
        run.2.events.filterMap Event.scanned? = record.events.filterMap Event.scanned?
    | none =>
      run.1 = ((searcher.searchText tree r).start state).1.map fun results =>
        ⟨r, results, "text", warnings ++ searcher.textWarnings tree r⟩ := by
  induction levels generalizing record with
  | nil =>
    obtain ⟨hresult, hcompiled⟩ := result_searchLevels_nil tree state hroot hsink record
    simpa [triedLevels] using ⟨hcompiled, hresult⟩
  | cons level rest ih =>
    rw [triedLevels, List.forall_mem_cons] at hcontained
    obtain ⟨hcompiled, hscanned⟩ :
        (searcher.tierRecord tree r (units level) record).events.filterMap Event.compiling? = _ ∧
          (searcher.tierRecord tree r (units level) record).events.filterMap Event.scanned? = _ :=
      filterMap_tierRecord (units level) record
    dsimp only
    rw [result_searchLevels_cons (hdiscover level) hcontained.1 hsink, triedLevels, List.find?_cons]
    -- The level has nothing, and the others go on from its record; or it has the answer.
    by_cases hnone : (units level).flatMap (searcher.unitMatches tree r) = []
    · rw [if_pos hnone] at hcontained
      have hrest := ih hcontained.2 (searcher.tierRecord tree r (units level) record)
      dsimp only at hrest
      rw [hcompiled, hscanned] at hrest
      simpa [hnone, tierRecord, Record.warnedAll, Record.notingAll] using hrest
    · have hfound : decide ((units level).flatMap (searcher.unitMatches tree r) ≠ []) = true := by
        simpa using hnone
      have hwarnings : (searcher.tierRecord tree r (units level) record).warnings =
          record.warnings ++ [level].flatMap fun level =>
            (units level).flatMap (searcher.failureWarnings tree r) := by
        simp [tierRecord, Record.warnedAll, Record.notingAll]
      rw [if_neg hnone, if_neg hnone, hfound, hwarnings]
      exact ⟨by simpa using hcompiled, rfl, hscanned⟩

/-- Of both levels the first is always tried, and the second where the units of the first have no
matches. -/
theorem triedLevels_both (units : Level → List Path) :
    searcher.triedLevels tree r units [.solution, .project] =
      .solution :: if (units .solution).flatMap (searcher.unitMatches tree r) = []
        then [.project] else [] := by
  simp [triedLevels]

/-- The level that answers, if any does, is the first one that passes a test. -/
theorem find?_both (test : Level → Prop) [DecidablePred test] :
    [Level.solution, Level.project].find? (fun level => test level) =
      if test .solution then some .solution else if test .project then some .project else none := by
  by_cases hsolution : test .solution <;> by_cases hproject : test .project <;>
    simp [hsolution, hproject]

/-- **What a search through both levels comes to**: the solution level answers, or it has nothing
and the project level answers, or both have nothing and the text answers. -/
theorem result_searchLevels_both {units : Level → List Path}
    (hdiscover : ∀ level, searcher.backend.discover tree r.root level = .ok (units level))
    (hroot : r.root.checkNul = .ok ()) (hsink : searcher.sink.TakesAll)
    (hcontained : ∀ level ∈ searcher.triedLevels tree r units [.solution, .project],
      ∀ unit ∈ units level, searcher.Contained tree r unit) (state : σ) :
    let found (level : Level) := (units level).flatMap (searcher.unitMatches tree r)
    let warnings (level : Level) := (units level).flatMap (searcher.failureWarnings tree r)
    let run := (searcher.searchLevels tree r [.solution, .project]).result ⟨[], [], state⟩
    let compiled := run.2.events.filterMap Event.compiling?
    let scanned := run.2.events.filterMap Event.scanned?
    (found .solution ≠ [] ∧ compiled = units .solution ∧ scanned = [] ∧
      run.1 = .ok ⟨r, firstReports (found .solution), "solution", warnings .solution⟩) ∨
    (found .solution = [] ∧ found .project ≠ [] ∧ compiled = units .solution ++ units .project ∧
      scanned = [] ∧ run.1 = .ok ⟨r, firstReports (found .project), "project",
        warnings .solution ++ warnings .project⟩) ∨
    (found .solution = [] ∧ found .project = [] ∧
      compiled = units .solution ++ units .project ∧
      run.1 = ((searcher.searchText tree r).start state).1.map fun results =>
        ⟨r, results, "text",
          warnings .solution ++ warnings .project ++ searcher.textWarnings tree r⟩) := by
  intro found warnings run compiled scanned
  obtain ⟨hcompiled, hanswer⟩ :=
    result_searchLevels hdiscover hroot hsink hcontained state ⟨[], [], state⟩
  rw [triedLevels_both] at hcompiled hanswer
  rw [find?_both fun level => found level ≠ []] at hanswer
  by_cases hsolution : found .solution = []
  · rw [if_pos hsolution] at hcompiled hanswer
    rw [if_neg (not_not.2 hsolution)] at hanswer
    simp only [List.flatMap_cons, List.flatMap_nil, List.append_nil, List.filterMap_nil,
      List.nil_append] at hcompiled hanswer
    by_cases hproject : found .project = []
    · rw [if_neg (not_not.2 hproject)] at hanswer
      exact .inr (.inr ⟨hsolution, hproject, hcompiled, hanswer⟩)
    · rw [if_pos hproject] at hanswer
      exact .inr (.inl ⟨hsolution, hproject, hcompiled, hanswer.2, hanswer.1⟩)
  · rw [if_neg hsolution] at hcompiled hanswer
    rw [if_pos hsolution] at hanswer
    simp only [List.flatMap_cons, List.flatMap_nil, List.append_nil, List.filterMap_nil,
      List.nil_append] at hcompiled hanswer
    exact .inl ⟨hsolution, hcompiled, hanswer.2, hanswer.1⟩

/-- **The first tier with results answers.**  Nothing fails about the backend as a whole, its
handles can be released, the sink takes what it is given, and the failures of the units that the
search gets to have wordings; the units may fail in any other way.  The solution level answers if
its units, merged, have results, otherwise the project level if its units do, and otherwise the
text, with what a text search of its own comes to, also if that fails for want of workers.  The
warnings are those of the tiers up to the one that answers.  Units of the project level are
compiled only where the solution level has no results, and files are scanned only where no level
has any.  A backend without units, or one that does not cover the extensions, leaves all to the
text. -/
theorem search_answers_first_tier (state : σ) {covered : Bool} {units : Level → List Path}
    (hroot : tree.isFolder r.root = .ok true)
    (hcovers : searcher.backend.covers r.extensions = .ok covered)
    (hdiscover : ∀ level, searcher.backend.discover tree r.root level = .ok (units level))
    (hrelease : ∀ handle, ∃ left, searcher.backend.release handle = .ok left)
    (hsink : searcher.sink.TakesAll)
    (hworded : ∀ level ∈ searcher.triedLevels tree r units
        (if covered then [.solution, .project] else []),
      ∀ unit ∈ units level, ∀ f, searcher.unitAnswer tree r unit = .error f →
        ∀ name why, f ≠ .wordless name why) :
    let merged (level : Level) :=
      if covered then firstReports ((units level).flatMap (searcher.unitMatches tree r)) else []
    let warnings (level : Level) :=
      if covered then (units level).flatMap (searcher.failureWarnings tree r) else []
    let text := (searcher.searchText tree r).start state
    let run := (searcher.search tree r).start state
    run.1 = (
      if merged .solution ≠ [] then .ok ⟨r, merged .solution, "solution", warnings .solution⟩
      else if merged .project ≠ [] then
        .ok ⟨r, merged .project, "project", warnings .solution ++ warnings .project⟩
      else text.1.map fun results =>
        ⟨r, results, "text",
          warnings .solution ++ warnings .project ++ searcher.textWarnings tree r⟩) ∧
    (0 < searcher.settings.maxWorkers →
      text.1 = .ok (searcher.textMatches tree r) ∧
        text.2.warnings = searcher.textWarnings tree r) ∧
    run.2.events.filterMap Event.compiling? =
      (if covered then units .solution else []) ++
        (if covered ∧ merged .solution = [] then units .project else []) ∧
    (merged .solution ≠ [] ∨ merged .project ≠ [] →
      run.2.events.filterMap Event.scanned? = []) ∧
    (covered = false ∨ (∀ level, units level = []) →
      run.1 = text.1.map fun results => ⟨r, results, "text", searcher.textWarnings tree r⟩) := by
  intro merged warnings text run
  have hnul := Path.checkNul_of_isFolder hroot
  have hrun : run = _ := result_search hroot hcovers ⟨[], [], state⟩
  have hcontained : ∀ level ∈ searcher.triedLevels tree r units
      (if covered then [.solution, .project] else []),
      ∀ unit ∈ units level, searcher.Contained tree r unit :=
    fun level hlevel unit hunit => contained_of_release hrelease (hworded level hlevel unit hunit)
  have htext : 0 < searcher.settings.maxWorkers →
      text.1 = .ok (searcher.textMatches tree r) ∧
        text.2.warnings = searcher.textWarnings tree r :=
    start_searchText hnul hsink state
  -- Without coverage no level is tried; with it the levels answer in one of three ways.
  cases covered with
  | false =>
    obtain ⟨hresult, hcompiled⟩ :=
      result_searchLevels_nil tree state hnul hsink (⟨[], [], state⟩ : Record H σ)
    rw [hrun]
    exact ⟨hresult, htext, hcompiled, by simp [merged], fun _ => hresult⟩
  | true =>
    let found (level : Level) := (units level).flatMap (searcher.unitMatches tree r)
    have hmerged (level : Level) : merged level = firstReports (found level) := rfl
    have hempty (level : Level) : firstReports (found level) = [] ↔ found level = [] :=
      firstReports_eq_nil_iff
    have hunits : (true = false ∨ ∀ level, units level = []) → ∀ level, found level = [] := by
      intro h level
      simp only [found, h.resolve_left (by decide) level, List.flatMap_nil]
    have hlevels := result_searchLevels_both hdiscover hnul hsink hcontained state
    change (found .solution ≠ [] ∧ _) ∨ (found .solution = [] ∧ found .project ≠ [] ∧ _) ∨
      (found .solution = [] ∧ found .project = [] ∧ _) at hlevels
    rw [hrun]
    simp only [hmerged, ne_eq, hempty, if_true, true_and]
    obtain ⟨hsolution, hcompiled, hscanned, hanswer⟩ |
        ⟨hsolution, hproject, hcompiled, hscanned, hanswer⟩ |
        ⟨hsolution, hproject, hcompiled, hanswer⟩ := hlevels
    · exact ⟨by rw [if_pos hsolution]; exact hanswer, htext,
        by rw [if_neg hsolution, List.append_nil]; exact hcompiled, fun _ => hscanned,
        fun h => absurd (hunits h .solution) hsolution⟩
    · exact ⟨by rw [if_neg (not_not.2 hsolution), if_pos hproject]; exact hanswer, htext,
        by rw [if_pos hsolution]; exact hcompiled, fun _ => hscanned,
        fun h => absurd (hunits h .project) hproject⟩
    · refine ⟨by rw [if_neg (not_not.2 hsolution), if_neg (not_not.2 hproject)]; exact hanswer,
        htext, by rw [if_pos hsolution]; exact hcompiled, ?_, fun h => ?_⟩
      · exact fun h => absurd (h.elim (absurd hsolution) (absurd hproject)) id
      · simpa [h.resolve_left (by decide)] using hanswer

/-- The units `bad` and `good`, the first on the solution level and the second on the project
level. -/
def oneOnEachLevel : Searcher String PreparedSymbol (List String) :=
  { halfBroken with
    backend := { halfBroken.backend with
      discover := fun _ _ level =>
        .ok (if level = .solution then [unitCalled "bad"] else [unitCalled "good"]) } }

/-- The hypotheses of `search_answers_first_tier` are satisfiable: the only unit of the solution
level fails, the project level answers, and no file is scanned. -/
theorem search_answers_first_tier_oneOnEachLevel :
    oneLineTree.isFolder requestForA.root = .ok true ∧
    oneOnEachLevel.backend.covers requestForA.extensions = .ok true ∧
    (∀ handle, ∃ left, oneOnEachLevel.backend.release handle = .ok left) ∧
    oneOnEachLevel.sink.TakesAll ∧
    ((oneOnEachLevel.search oneLineTree requestForA).start []).1 =
      .ok ⟨requestForA, [⟨"x.py", 1, "m.A", .classDecl, ">>> a"⟩], "project",
        ["Could not analyze bad: target_index 6 out of range for 1 lines"]⟩ ∧
    ((oneOnEachLevel.search oneLineTree requestForA).start []).2.events.filterMap
      Event.compiling? = [unitCalled "bad", unitCalled "good"] ∧
    ((oneOnEachLevel.search oneLineTree requestForA).start []).2.events.filterMap
      Event.scanned? = [] := by
  obtain ⟨hbad, hgood⟩ : oneOnEachLevel.unitAnswer oneLineTree requestForA (unitCalled "bad") = _ ∧
    oneOnEachLevel.unitAnswer oneLineTree requestForA (unitCalled "good") = _ :=
    unitAnswer_halfBroken
  have hroot : oneLineTree.isFolder requestForA.root = .ok true := by decide
  have hcovers : oneOnEachLevel.backend.covers requestForA.extensions = .ok true := rfl
  have hdiscover : ∀ level, oneOnEachLevel.backend.discover oneLineTree requestForA.root level =
      .ok (if level = .solution then [unitCalled "bad"] else [unitCalled "good"]) := fun _ => rfl
  have hrelease : ∀ handle, ∃ left, oneOnEachLevel.backend.release handle = .ok left :=
    fun handle => ⟨handle, rfl⟩
  have hsink : oneOnEachLevel.sink.TakesAll := fun _ _ => rfl
  obtain ⟨hresult, -, hcompiled, hscanned, -⟩ :=
    search_answers_first_tier [] hroot hcovers hdiscover hrelease hsink (by
      intro level _ unit hunit f hf name why
      cases level with
      | solution =>
        rw [List.mem_singleton.1 hunit, hbad] at hf
        simp [← Except.error.inj hf]
      | project =>
        rw [List.mem_singleton.1 hunit, hgood] at hf
        simp at hf)
  simp only [if_true, reduceCtorEq, if_false, List.flatMap_cons, List.flatMap_nil, List.append_nil,
    unitMatches, failureWarnings, hbad, hgood] at hresult hcompiled hscanned
  refine ⟨hroot, hcovers, hrelease, hsink, hresult.trans ?_, hcompiled.trans ?_, hscanned ?_⟩ <;>
    decide +kernel

end Searcher
end DeclSearch
