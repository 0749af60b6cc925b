/-
# When a search completes

A search goes from level to level as long as the units of a level have no matches, and to
the text in the end.  Of the units only those of the levels that it gets to are run
(`Searcher.triedLevels`), and the search completes when the failure of each of these stays
inside its run, and only then (`exists_result_searchLevels_iff`).  Inside stays every
failure of a backend but two: that of releasing a handle, and one that has no wording
(`contained_iff`).

The induction is on the levels, the record being whatever the levels so far have left; the
text search always ends well where there are workers to run it (`exists_result_searchText`).
How a search that completes has come to its outcome is said by `Searcher.Completes`, one rule
for each way to leave a level; what holds of every such search is proved along these rules.
-/

import DeclSearch.Proofs.Scanning

namespace DeclSearch

open Workspace (Path Tree)

variable {H S σ : Type}

/-- A root that is a folder holds no NUL. -/
theorem Workspace.Path.checkNul_of_isFolder {tree : Tree} {root : Path}
    (h : tree.isFolder root = .ok true) : root.checkNul = .ok () := by
  unfold checkNul
  cases hnul : root.hasNul with
  | false => rfl
  | true => simp [Tree.isFolder, Tree.resolve, Tree.resolveWithin, hnul] at h

namespace Searcher

variable {searcher : Searcher H S σ} {tree : Tree} {r : Request}

/-- **A tier ends well when the failure of every unit stays inside its run, and only
then.** -/
theorem exists_result_searchUnits_iff (units : List Path) (hsink : searcher.sink.TakesAll)
    (record : Record H σ) :
    (∃ merged after, (searcher.searchUnits tree r units).result record = (.ok merged, after)) ↔
      ∀ unit ∈ units, searcher.Contained tree r unit := by
  constructor
  · rintro ⟨_, _, h⟩
    exact (ok_of_result_searchUnits h).1
  · exact fun hunits => ⟨_, _, result_searchUnits hunits hsink record⟩

variable (searcher tree r)

/-- The levels that a search gets to: none behind one whose units have matches. -/
def triedLevels (units : Level → List Path) : List Level → List Level
  | [] => []
  | level :: rest =>
    level :: if (units level).flatMap (searcher.unitMatches tree r) = []
      then triedLevels units rest else []

variable {searcher tree r}

/-- What a search does at a level when the failures of its units stay inside: it goes on
when the units have no matches, and ends with their first reports otherwise. -/
theorem result_searchLevels_cons {units : Level → List Path} {level : Level} {rest : List Level}
    (hdiscover : searcher.backend.discover tree r.root level = .ok (units level))
    (hunits : ∀ unit ∈ units level, searcher.Contained tree r unit)
    (hsink : searcher.sink.TakesAll) (record : Record H σ) :
    (searcher.searchLevels tree r (level :: rest)).result record =
      let found := (units level).flatMap (searcher.unitMatches tree r)
      let after := searcher.tierRecord tree r (units level) record
      if found = [] then (searcher.searchLevels tree r rest).result after
      else (.ok ⟨r, firstReports found, level.name, after.warnings⟩, after) := by
  rw [searchLevels, hdiscover, Run.result_bind_of_ok (Run.result_lift _ _),
    Run.result_bind_of_ok (result_searchUnits hunits hsink record)]
  simp only [List.isEmpty_iff, firstReports_eq_nil_iff]
  split <;> rfl

/-- **Which levels decide.** A search through some levels completes when the failure of every unit
stays inside at the levels that it gets to, and only then. It gets to a level when the units of the
levels in front have no matches, so the units of the levels behind the one that answers may fail as
they like. -/
theorem exists_result_searchLevels_iff {units : Level → List Path} {levels : List Level}
    (hdiscover : ∀ level ∈ levels,
      searcher.backend.discover tree r.root level = .ok (units level))
    (hworkers : 0 < searcher.settings.maxWorkers) (hroot : r.root.checkNul = .ok ())
    (hsink : searcher.sink.TakesAll) (record : Record H σ) :
    (∃ o after, (searcher.searchLevels tree r levels).result record = (.ok o, after)) ↔
      ∀ level ∈ searcher.triedLevels tree r units levels, ∀ unit ∈ units level,
        searcher.Contained tree r unit := by
  induction levels generalizing record with
  | nil =>
    obtain ⟨results, after, h⟩ : ∃ results after,
        (searcher.searchText tree r).result record = (.ok results, after) :=
      exists_result_searchText hworkers hroot hsink record
    simp only [triedLevels, List.not_mem_nil, false_imp_iff, implies_true, iff_true]
    exact ⟨_, _, (Run.result_bind_of_ok h).trans rfl⟩
  | cons level rest ih =>
    have hlevel := hdiscover level List.mem_cons_self
    rw [triedLevels, List.forall_mem_cons]
    -- The units of this level let the search go on, or one of them ends it.
    by_cases hunits : ∀ unit ∈ units level, searcher.Contained tree r unit
    · rw [result_searchLevels_cons hlevel hunits hsink]
      dsimp only
      split
      · rw [ih (fun level hl => hdiscover level (List.mem_cons_of_mem _ hl)),
          and_iff_right hunits]
      · simpa using hunits
    · refine iff_of_false ?_ fun h => hunits h.1
      rintro ⟨o, after, h⟩
      apply hunits
      rw [searchLevels, hlevel, Run.result_bind_of_ok (Run.result_lift _ _)] at h
      obtain ⟨merged, next, htier, -⟩ := Run.result_bind_eq_ok_iff.1 h
      exact (exists_result_searchUnits_iff (units level) hsink record).1 ⟨merged, next, htier⟩

/-- A search below a folder goes through the levels, if the backend covers the extensions. -/
theorem result_search (hroot : tree.isFolder r.root = .ok true) {covered : Bool}
    (hcovers : searcher.backend.covers r.extensions = .ok covered) (record : Record H σ) :
    (searcher.search tree r).result record = (searcher.searchLevels tree r
      (if covered then [.solution, .project] else [])).result record := by
  unfold search
  rw [hroot, hcovers, Failure.ofAccess, Run.result_bind_of_ok (Run.result_lift _ _)]
  dsimp only
  rw [if_neg (by simp), Run.result_bind_of_ok (Run.result_lift _ _)]

/-- What a completed search through some levels comes to: of a level that it got to, every
unit that did not fail has its matches there by file, line and kind, and if there are any
the level is the strategy. -/
theorem results_of_searchLevels {units : Level → List Path} {levels : List Level}
    (hdiscover : ∀ level ∈ levels,
      searcher.backend.discover tree r.root level = .ok (units level))
    (hsink : searcher.sink.TakesAll) {record after : Record H σ} {o : Outcome}
    (hcontained : ∀ level ∈ searcher.triedLevels tree r units levels, ∀ unit ∈ units level,
      searcher.Contained tree r unit)
    (h : (searcher.searchLevels tree r levels).result record = (.ok o, after)) :
    ∀ level ∈ searcher.triedLevels tree r units levels, ∀ unit ∈ units level,
      ∀ m ∈ searcher.unitMatches tree r unit,
        o.strategy = level.name ∧ ∃ kept ∈ o.results, kept.site = m.site := by
  induction levels generalizing record with
  | nil => simp [triedLevels]
  | cons first rest ih =>
    have hfirst := hdiscover first List.mem_cons_self
    rw [triedLevels, List.forall_mem_cons] at hcontained ⊢
    rw [result_searchLevels_cons hfirst hcontained.1 hsink] at h
    dsimp only at h
    split at h
    · next hnone =>
      rw [if_pos hnone] at hcontained ⊢
      refine ⟨fun unit hunit m hm => ?_,
        ih (fun level hl => hdiscover level (List.mem_cons_of_mem _ hl)) hcontained.2 h⟩
      exact absurd (List.mem_flatMap.2 ⟨unit, hunit, hm⟩) (by simp [hnone])
    · next hsome =>
      obtain ⟨rfl, -⟩ := Prod.mk.inj h |>.imp Except.ok.inj id
      rw [if_neg hsome]
      refine ⟨fun unit hunit m hm => ⟨rfl, ?_⟩, by simp⟩
      exact exists_firstReport (List.mem_flatMap.2 ⟨unit, hunit, hm⟩)

variable (searcher tree r)

/-- How a search through some levels completes: behind the last level with the text, at a level
whose units have matches with their first reports, and at any other level as it does behind
it. -/
inductive Completes : List Level → Record H σ → Outcome → Record H σ → Prop where
  | text {record : Record H σ} :
    Completes [] record ⟨r, searcher.textMatches tree r, "text",
      record.warnings ++ searcher.textWarnings tree r⟩ (searcher.textRecord tree r record)
  | answered {level : Level} {rest : List Level} {units : List Path} {record : Record H σ}
    (discovered : searcher.backend.discover tree r.root level = .ok units)
    (contained : ∀ unit ∈ units, searcher.Contained tree r unit)
    (found : units.flatMap (searcher.unitMatches tree r) ≠ []) :
    Completes (level :: rest) record
      ⟨r, firstReports (units.flatMap (searcher.unitMatches tree r)), level.name,
        record.warnings ++ units.flatMap (searcher.failureWarnings tree r)⟩
      (searcher.tierRecord tree r units record)
  | passed {level : Level} {rest : List Level} {units : List Path} {record after : Record H σ}
    {o : Outcome} (discovered : searcher.backend.discover tree r.root level = .ok units)
    (contained : ∀ unit ∈ units, searcher.Contained tree r unit)
    (none : units.flatMap (searcher.unitMatches tree r) = [])
    (completes : Completes rest (searcher.tierRecord tree r units record) o after) :
    Completes (level :: rest) record o after

variable {searcher tree r}

/-- **A search through levels that ends well has completed by the rules**, whatever the sink
does. -/
theorem completes_of_result_searchLevels {levels : List Level} {record after : Record H σ}
    {o : Outcome} (h : (searcher.searchLevels tree r levels).result record = (.ok o, after)) :
    searcher.Completes tree r levels record o after := by
  induction levels generalizing record with
  | nil =>
    rw [searchLevels] at h
    obtain ⟨results, next, htext, h⟩ := Run.result_bind_eq_ok_iff.1 h
    obtain ⟨rfl, rfl⟩ := eq_of_result_searchText htext
    obtain ⟨ho, rfl⟩ := Prod.mk.inj h
    rw [← Except.ok.inj ho, warnings_textRecord]
    exact .text
  | cons level rest ih =>
    rw [searchLevels] at h
    obtain ⟨units, hdiscover, h⟩ := Run.result_lift_bind_eq_ok_iff.1 h
    obtain ⟨merged, next, htier, h⟩ := Run.result_bind_eq_ok_iff.1 h
    obtain ⟨hunits, rfl, rfl⟩ := ok_of_result_searchUnits htier
    simp only [List.isEmpty_iff, firstReports_eq_nil_iff] at h
    split at h
    · next hnone => exact .passed hdiscover hunits hnone (ih h)
    · next hfound =>
      obtain ⟨ho, rfl⟩ := Prod.mk.inj h
      rw [← Except.ok.inj ho]
      exact .answered hdiscover hunits hfound

/-- **A search that ends well has completed by the rules**, with the levels of its backend or
with none. -/
theorem completes_of_result_search {record after : Record H σ} {o : Outcome}
    (h : (searcher.search tree r).result record = (.ok o, after)) :
    ∃ levels, searcher.Completes tree r levels record o after := by
  unfold search at h
  obtain ⟨isFolder, -, h⟩ := Run.result_lift_bind_eq_ok_iff.1 h
  split at h
  · obtain ⟨_, _, hthrow, -⟩ := Run.result_bind_eq_ok_iff.1 h
    simp at hthrow
  · obtain ⟨covered, -, h⟩ := Run.result_lift_bind_eq_ok_iff.1 h
    exact ⟨_, completes_of_result_searchLevels h⟩

variable (searcher tree r)

/-- What an outcome says where a level has answered: its strategy is the name of the level,
and its results are the first reports among the matches of the level's units. -/
structure AnsweredBy (o : Outcome) (level : Level) (units : List Path) : Prop where
  strategy : o.strategy = level.name
  discovered : searcher.backend.discover tree r.root level = .ok units
  results : o.results = firstReports (units.flatMap (searcher.unitMatches tree r))

variable {searcher tree r}

/-- **Who answers.**  An outcome is that of the text or of a level. -/
theorem Completes.answered_or_text {levels : List Level} {record after : Record H σ} {o : Outcome}
    (h : searcher.Completes tree r levels record o after) :
    (o.strategy = "text" ∧ o.results = searcher.textMatches tree r) ∨
      ∃ level units, searcher.AnsweredBy tree r o level units := by
  induction h with
  | text => exact .inl ⟨rfl, rfl⟩
  | answered discovered _ _ => exact .inr ⟨_, _, rfl, discovered, rfl⟩
  | passed _ _ _ _ ih => exact ih

/-- An outcome names the request that it answers. -/
theorem Completes.request_eq {levels : List Level} {record after : Record H σ} {o : Outcome}
    (h : searcher.Completes tree r levels record o after) : o.request = r := by
  induction h with
  | text => rfl
  | answered _ _ _ => rfl
  | passed _ _ _ _ ih => exact ih

/-- The outcome of a search is that of the text or of a level. -/
theorem answered_of_result_search {record after : Record H σ} {o : Outcome}
    (h : (searcher.search tree r).result record = (.ok o, after)) :
    o.strategy = "text" ∨ ∃ level units, searcher.AnsweredBy tree r o level units := by
  obtain ⟨levels, hcompletes⟩ := completes_of_result_search h
  exact hcompletes.answered_or_text.imp_left And.left

/-- **A run of a unit ends well when its failure stays inside, and only then.** -/
theorem exists_result_runUnit_iff (unit : Path) (record : Record H σ) :
    (∃ answer after, (searcher.runUnit tree r unit).result record = (.ok answer, after)) ↔
      searcher.Contained tree r unit := by
  rw [result_runUnit, ← exists_unitResult_eq_ok_iff]
  simp

/-- **Which failures stay inside**: all but that of a release, and those without wording. It is not
asked which of the calls for the unit has failed, nor how many would. -/
theorem contained_iff (unit : Path) :
    searcher.Contained tree r unit ↔
      (∀ handle, searcher.backend.compile tree unit = .ok handle →
        ∃ left, searcher.backend.release handle = .ok left) ∧
      ∀ f, searcher.unitAnswer tree r unit = .error f → ∀ name why, f ≠ .wordless name why :=
  ⟨fun h => ⟨h.released, fun f hf => Failure.worded_iff.1 (h.worded f hf)⟩,
    fun h => ⟨h.1, fun f hf => Failure.worded_iff.2 (h.2 f hf)⟩⟩

/-- **Which failures of a backend end a search.**  Whatever its methods do about a unit, the
unit's run gives an answer when the handle, if there is one, can be released and the
failure, if there is one, has a wording, and only then.  The search completes when this
holds of every unit that it gets to, and only then; and each of these units that did not
fail has its matches among the results, by file, line and kind. -/
theorem search_completes_iff (record : Record H σ) {covered : Bool} {units : Level → List Path}
    (hroot : tree.isFolder r.root = .ok true)
    (hcovers : searcher.backend.covers r.extensions = .ok covered)
    (hdiscover : ∀ level, searcher.backend.discover tree r.root level = .ok (units level))
    (hworkers : 0 < searcher.settings.maxWorkers) (hsink : searcher.sink.TakesAll) :
    let tried := searcher.triedLevels tree r units (if covered then [.solution, .project] else [])
    (∀ unit, searcher.Contained tree r unit ↔
      (∀ handle, searcher.backend.compile tree unit = .ok handle →
        ∃ left, searcher.backend.release handle = .ok left) ∧
      ∀ f, searcher.unitAnswer tree r unit = .error f → ∀ name why, f ≠ .wordless name why) ∧
    (∀ unit record,
      (∃ answer after, (searcher.runUnit tree r unit).result record = (.ok answer, after)) ↔
        searcher.Contained tree r unit) ∧
    ((∃ o after, (searcher.search tree r).result record = (.ok o, after)) ↔
      ∀ level ∈ tried, ∀ unit ∈ units level, searcher.Contained tree r unit) ∧
    ∀ o after, (searcher.search tree r).result record = (.ok o, after) →
      ∀ level ∈ tried, ∀ unit ∈ units level, ∀ batch, searcher.unitAnswer tree r unit = .ok batch →
        ∀ m ∈ batch, o.strategy = level.name ∧ ∃ kept ∈ o.results, kept.site = m.site := by
  intro tried
  have hnul := Path.checkNul_of_isFolder hroot
  have hcompletes : (∃ o after, (searcher.searchLevels tree r
        (if covered then [.solution, .project] else [])).result record = (.ok o, after)) ↔
      ∀ level ∈ tried, ∀ unit ∈ units level, searcher.Contained tree r unit :=
    exists_result_searchLevels_iff (fun level _ => hdiscover level) hworkers hnul hsink record
  rw [result_search hroot hcovers]
  refine ⟨contained_iff, exists_result_runUnit_iff, hcompletes, ?_⟩
  intro o after h level hlevel unit hunit batch hbatch m hm
  exact results_of_searchLevels (fun level _ => hdiscover level) hsink
    (hcompletes.1 ⟨o, after, h⟩) h level hlevel unit hunit m (mem_unitMatches hbatch hm)

end Searcher
end DeclSearch
