/-
# One tier of units

The units of a tier do not know of one another.  When the failure of every unit stays
inside and the sink takes what it is given, a tier ends with the first report of each site
among the matches of the units that did not fail, and with one warning for each unit that
did, in order (`result_searchUnits`).  So a unit that fails costs the tier nothing but its
own matches: without it the results are the same (`searchUnits_isolates_failures`).

The record carries the argument: running the units adds their events and nothing else
(`foldl_notingAll`), and passing on their warnings afterwards adds these
(`foldl_warnedAll`).
-/

import DeclSearch.Backend.Prepared
import DeclSearch.Proofs.Sites
import DeclSearch.Proofs.Units
import Mathlib.Data.List.Basic

namespace DeclSearch

open Workspace (Path Tree)

variable {H S σ : Type}

/-- Whether a sink takes every warning. -/
def Sink.TakesAll (sink : Sink σ) : Prop := ∀ message state, (sink.warn message state).2 = .ok ()

/-- The state of a sink behind some warnings. -/
def Sink.feed (sink : Sink σ) (messages : List String) (state : σ) : σ :=
  messages.foldl (fun state message => (sink.warn message state).1) state

/-- The record behind some warnings. -/
def Record.warnedAll (record : Record H σ) (sink : Sink σ) (messages : List String) :
    Record H σ where
  events := record.events ++ messages.map .warned
  warnings := record.warnings ++ messages
  sink := sink.feed messages record.sink

/-- Noting the events of each item is noting all events at once. -/
theorem Record.foldl_notingAll {α : Type} (events : α → List (Event H)) (l : List α)
    (record : Record H σ) :
    l.foldl (fun record a => record.notingAll (events a)) record =
      record.notingAll (l.flatMap events) := by
  induction l generalizing record with
  | nil => simp [notingAll]
  | cons a l ih =>
    rw [List.foldl_cons, ih]
    simp [notingAll]

/-- Giving the warnings of each item is giving all warnings at once. -/
theorem Record.foldl_warnedAll {α : Type} (sink : Sink σ) (messages : α → List String)
    (l : List α) (record : Record H σ) :
    l.foldl (fun record a => record.warnedAll sink (messages a)) record =
      record.warnedAll sink (l.flatMap messages) := by
  induction l generalizing record with
  | nil => simp [warnedAll, Sink.feed]
  | cons a l ih =>
    rw [List.foldl_cons, ih]
    simp [warnedAll, Sink.feed, List.foldl_append]

namespace Searcher

variable (searcher : Searcher H S σ) (tree : Tree) (r : Request)

/-- The warnings that the answer of a unit calls for: one when it failed, with the wording of
the failure, or with its name when that is empty. -/
def failureWarnings (unit : Path) : List String :=
  match searcher.unitAnswer tree r unit with
  | .ok _ => []
  | .error f => ["Could not analyze " ++ unit.render ++ ": " ++
      if f.message = "" then f.name else f.message]

/-- The matches of a unit, none when it failed. -/
def unitMatches (unit : Path) : List Match := (searcher.unitAnswer tree r unit).toOption.getD []

/-- The record behind a tier: its units were run and its warnings passed on. -/
def tierRecord (units : List Path) (record : Record H σ) : Record H σ :=
  (record.notingAll (units.flatMap (searcher.unitEvents tree r))).warnedAll searcher.sink
    (units.flatMap (searcher.failureWarnings tree r))

variable {searcher tree r}

/-- What a unit contributes ends well: its matches are passed on, and its failure is warned about,
if the sink takes warnings. -/
theorem result_contribution (hsink : searcher.sink.TakesAll) (unit : Path) (record : Record H σ) :
    (searcher.contribution unit ((searcher.unitAnswer tree r unit).mapError Failure.shown)).result
        record =
      (.ok (searcher.unitMatches tree r unit),
        record.warnedAll searcher.sink (searcher.failureWarnings tree r unit)) := by
  unfold unitMatches failureWarnings
  rcases searcher.unitAnswer tree r unit with f | batch
  · have hwarn := Run.result_warn (H := H) searcher.sink (unitWarning unit f.shown) record
    rw [hsink] at hwarn
    show (Run.warn searcher.sink (unitWarning unit f.shown) >>= fun _ => pure []).result record = _
    rw [Run.result_bind_of_ok hwarn, Run.result_pure]
    rfl
  · simp [contribution, Except.mapError, Except.toOption, Record.warnedAll, Sink.feed]

/-- What running the units of a tier comes to, if their failures stay inside. -/
theorem result_runUnits {units : List Path}
    (hunits : ∀ unit ∈ units, searcher.Contained tree r unit) (record : Record H σ) :
    (units.mapM (searcher.runUnit tree r)).result record =
      (.ok (units.map fun unit => (searcher.unitAnswer tree r unit).mapError Failure.shown),
        record.notingAll (units.flatMap (searcher.unitEvents tree r))) := by
  rw [← Record.foldl_notingAll]
  refine Run.result_mapM_of_ok _ _ _ _ (fun unit hunit record => ?_) record
  rw [result_runUnit, unitResult_of_contained (hunits unit hunit)]

/-- If the units of a tier can be run to the end, their failures stay inside. -/
theorem contained_of_result_runUnits {units : List Path} {record after : Record H σ}
    {answers : List (Except String (List Match))}
    (h : (units.mapM (searcher.runUnit tree r)).result record = (.ok answers, after)) :
    ∀ unit ∈ units, searcher.Contained tree r unit := by
  intro unit hunit
  obtain ⟨before, _, reply, hreply⟩ := Run.ok_of_result_mapM h unit hunit
  rw [result_runUnit] at hreply
  exact exists_unitResult_eq_ok_iff.1 ⟨reply, (Prod.mk.inj hreply).1⟩

/-- Every unit contributes what its own answer calls for. -/
theorem mapM_contribution_zip (units : List Path) (answer : Path → Except String (List Match)) :
    ((units.zip (units.map answer)).mapM fun (unit, answer) => searcher.contribution unit answer) =
      units.mapM fun unit => searcher.contribution unit (answer unit) := by
  have hpairs : units.zip (units.map answer) = units.map fun unit => (unit, answer unit) := by
    simpa using List.zip_map' (f := id) (g := answer) (l := units)
  rw [hpairs, List.mapM_map]
  rfl

/-- **What a tier comes to.**  The units are run one after another and their answers merged;
of what they do to the record only events and warnings are left. -/
theorem result_searchUnits {units : List Path}
    (hunits : ∀ unit ∈ units, searcher.Contained tree r unit) (hsink : searcher.sink.TakesAll)
    (record : Record H σ) :
    (searcher.searchUnits tree r units).result record =
      (.ok (firstReports (units.flatMap (searcher.unitMatches tree r))),
        searcher.tierRecord tree r units record) := by
  unfold searchUnits
  rw [Run.result_bind_of_ok (result_runUnits hunits record), mapM_contribution_zip]
  have hpass := Run.result_mapM_of_ok _ (searcher.unitMatches tree r)
    (fun record unit => record.warnedAll searcher.sink (searcher.failureWarnings tree r unit))
    units (fun unit _ => result_contribution hsink unit)
    (record.notingAll (units.flatMap (searcher.unitEvents tree r)))
  rw [Record.foldl_warnedAll] at hpass
  refine (Run.result_bind_of_ok hpass).trans ?_
  rw [Run.result_pure, distinctSites_nil]
  rfl

/-- What a unit contributes, if the sink takes the warning about it. -/
theorem eq_of_result_contribution {unit : Path} {before after : Record H σ} {batch : List Match}
    (h : (searcher.contribution unit
      ((searcher.unitAnswer tree r unit).mapError Failure.shown)).result before =
        (.ok batch, after)) :
    batch = searcher.unitMatches tree r unit ∧
      after = before.warnedAll searcher.sink (searcher.failureWarnings tree r unit) := by
  unfold unitMatches failureWarnings
  rcases hanswer : searcher.unitAnswer tree r unit with f | found <;> rw [hanswer] at h
  · change (Run.warn searcher.sink (unitWarning unit f.shown) >>= fun _ => pure []).result before =
      _ at h
    obtain ⟨_, next, hwarn, h⟩ := Run.result_bind_eq_ok_iff.1 h
    rw [Run.result_warn] at hwarn
    obtain ⟨-, rfl⟩ := Prod.mk.inj hwarn
    obtain ⟨rfl, rfl⟩ := Run.result_pure_eq_ok_iff.1 h
    exact ⟨rfl, rfl⟩
  · obtain ⟨rfl, rfl⟩ := Run.result_pure_eq_ok_iff.1 h
    exact ⟨rfl, by simp [Record.warnedAll, Sink.feed]⟩

/-- **What a tier that ends well comes to**, whatever the sink does: the failures of its units
stayed inside their runs, the results are the first reports among their matches, and the record
is the one behind the tier. -/
theorem ok_of_result_searchUnits {units : List Path} {record after : Record H σ}
    {merged : List Match}
    (h : (searcher.searchUnits tree r units).result record = (.ok merged, after)) :
    (∀ unit ∈ units, searcher.Contained tree r unit) ∧
      merged = firstReports (units.flatMap (searcher.unitMatches tree r)) ∧
      after = searcher.tierRecord tree r units record := by
  unfold searchUnits at h
  obtain ⟨answers, next, hrun, h⟩ := Run.result_bind_eq_ok_iff.1 h
  have hunits := contained_of_result_runUnits hrun
  obtain ⟨hanswers, rfl⟩ := Prod.mk.inj (hrun.symm.trans (result_runUnits hunits record))
  refine ⟨hunits, ?_⟩
  rw [Except.ok.inj hanswers, mapM_contribution_zip] at h
  obtain ⟨batches, last, hpass, h⟩ := Run.result_bind_eq_ok_iff.1 h
  obtain ⟨rfl, rfl⟩ := Run.eq_of_result_mapM
    (fun unit _ _ _ _ hbatch => eq_of_result_contribution hbatch) hpass
  obtain ⟨rfl, rfl⟩ := Run.result_pure_eq_ok_iff.1 h
  refine ⟨?_, ?_⟩
  · rw [distinctSites_nil, List.flatMap_def]
  · rw [Record.foldl_warnedAll, tierRecord]

/-- **When a unit fails.**  It does when it cannot be compiled, when its symbols cannot be
found, and when one of these symbols cannot be answered for. -/
theorem exists_unitAnswer_eq_ok_iff {unit : Path} :
    (∃ batch, searcher.unitAnswer tree r unit = .ok batch) ↔
      ∃ handle, searcher.backend.compile tree unit = .ok handle ∧
        ∃ symbols, searcher.backend.find handle r.nameTest = .ok symbols ∧
          ∀ s ∈ symbols, searcher.Answerable tree r handle s := by
  unfold unitAnswer
  simp only [Except.exists_bind_eq_ok_iff, queryUnit_isOk_iff]

/-- A unit calls for no warning when it did not fail. -/
theorem failureWarnings_eq_nil_iff {unit : Path} :
    searcher.failureWarnings tree r unit = [] ↔
      ∃ batch, searcher.unitAnswer tree r unit = .ok batch := by
  unfold failureWarnings
  rcases searcher.unitAnswer tree r unit with f | batch <;> simp

/-- Units that fail have no matches. -/
theorem flatMap_unitMatches_filter (units : List Path) :
    (units.filter fun unit => (searcher.failureWarnings tree r unit).isEmpty).flatMap
        (searcher.unitMatches tree r) =
      units.flatMap (searcher.unitMatches tree r) := by
  induction units with
  | nil => rfl
  | cons unit units ih =>
    rw [List.filter_cons, List.flatMap_cons, ← ih]
    rcases h : searcher.unitAnswer tree r unit with f | batch
    · simp [unitMatches, failureWarnings, h, Except.toOption]
    · simp [failureWarnings, h]

/-- The matches of a unit that does not fail are those of its answer. -/
theorem mem_unitMatches {unit : Path} {batch : List Match} {m : Match}
    (h : searcher.unitAnswer tree r unit = .ok batch) (hm : m ∈ batch) :
    m ∈ searcher.unitMatches tree r unit := by
  simpa [unitMatches, h, Except.toOption] using hm

/-- What is among the matches of a unit is reported for one of the symbols that it has found. -/
theorem exists_of_mem_unitMatches {unit : Path} {m : Match}
    (hm : m ∈ searcher.unitMatches tree r unit) :
    ∃ handle s reports, searcher.backend.compile tree unit = .ok handle ∧
      (searcher.matchesOf tree r handle s).answer = .ok reports ∧ m ∈ reports ∧
      ∀ other ∈ reports, other ∈ searcher.unitMatches tree r unit := by
  rcases hanswer : searcher.unitAnswer tree r unit with f | batch
  · simp [unitMatches, hanswer, Except.toOption] at hm
  have hbatch : searcher.unitMatches tree r unit = batch := by
    simp [unitMatches, hanswer, Except.toOption]
  rw [hbatch] at hm ⊢
  obtain ⟨handle, hcompile, hquery⟩ := Except.bind_eq_ok_iff.1 hanswer
  rw [answer_queryUnit] at hquery
  obtain ⟨symbols, -, hquery⟩ := Except.bind_eq_ok_iff.1 hquery
  obtain ⟨batches, hbatches, hflat⟩ := Except.bind_eq_ok_iff.1 hquery
  obtain rfl : batches.flatten = batch := Except.ok.inj hflat
  obtain ⟨reports, hreports, hm⟩ := List.mem_flatten.1 hm
  obtain ⟨s, -, hs⟩ := Except.exists_of_mem_mapM hbatches hreports
  exact ⟨handle, s, reports, hcompile, hs, hm,
    fun other hother => List.mem_flatten.2 ⟨reports, hreports, hother⟩⟩

/-- What is reported for a symbol is shown at a location. -/
theorem exists_matchAt_of_mem {handle : H} {s : S} {reports : List Match}
    (h : (searcher.matchesOf tree r handle s).answer = .ok reports) {m : Match}
    (hm : m ∈ reports) :
    ∃ name kind l, matchAt tree name kind l = .ok m := by
  rw [answer_matchesOf] at h
  obtain ⟨kind, -, h⟩ := Except.bind_eq_ok_iff.1 h
  obtain ⟨locations, -, h⟩ := Except.bind_eq_ok_iff.1 h
  obtain ⟨declared, hdeclared, h⟩ := Except.bind_eq_ok_iff.1 h
  have hdeclaration : m ∈ declared → ∃ name kind l, matchAt tree name kind l = .ok m := by
    intro hm
    obtain ⟨l, -, hl⟩ := Except.exists_of_mem_mapM hdeclared hm
    exact ⟨_, _, l, hl⟩
  split at h
  · obtain ⟨references, -, h⟩ := Except.bind_eq_ok_iff.1 h
    obtain ⟨used, hused, h⟩ := Except.bind_eq_ok_iff.1 h
    obtain rfl : declared ++ used = reports := Except.ok.inj h
    refine (List.mem_append.1 hm).elim hdeclaration fun hm => ?_
    obtain ⟨l, -, hl⟩ := Except.exists_of_mem_mapM hused hm
    exact ⟨_, _, l, hl⟩
  · obtain rfl : declared = reports := Except.ok.inj h
    exact hdeclaration hm

/-- **A unit that fails costs its tier only its own matches.**  Any of the units may fail, at
being compiled or at any point of being queried.  The tier ends with what it would have ended
with without them, and with one warning for each of them, in order, which the sink was given.
No two of its results share file, line and kind; every match of a unit that did not fail is
there by file, line and kind; and the results are the first reports among the matches of
these units. -/
theorem searchUnits_isolates_failures (units : List Path) (record : Record H σ)
    (hunits : ∀ unit ∈ units, searcher.Contained tree r unit) (hsink : searcher.sink.TakesAll) :
    ∃ merged after,
      (searcher.searchUnits tree r units).result record = (.ok merged, after) ∧
      ((searcher.searchUnits tree r (units.filter fun unit =>
        (searcher.failureWarnings tree r unit).isEmpty)).result record).1 = .ok merged ∧
      after.warnings = record.warnings ++ units.flatMap (searcher.failureWarnings tree r) ∧
      after.sink =
        searcher.sink.feed (units.flatMap (searcher.failureWarnings tree r)) record.sink ∧
      (merged.map Match.site).Nodup ∧
      (∀ unit ∈ units, ∀ batch, searcher.unitAnswer tree r unit = .ok batch →
        ∀ m ∈ batch, ∃ kept ∈ merged, kept.site = m.site) ∧
      merged = firstReports (units.flatMap (searcher.unitMatches tree r)) ∧
      ∀ unit ∈ units, searcher.failureWarnings tree r unit = [] ↔
        ∃ handle, searcher.backend.compile tree unit = .ok handle ∧
          ∃ symbols, searcher.backend.find handle r.nameTest = .ok symbols ∧
            ∀ s ∈ symbols, searcher.Answerable tree r handle s := by
  refine ⟨_, _, result_searchUnits hunits hsink record, ?_, rfl, rfl, ?_, ?_, rfl, ?_⟩
  · rw [result_searchUnits (fun unit hunit => hunits unit (List.mem_of_mem_filter hunit)) hsink,
      flatMap_unitMatches_filter]
  · rw [← distinctSites_nil]
    exact nodup_sites _ []
  · intro unit hunit batch hbatch m hm
    exact exists_firstReport (List.mem_flatMap.2 ⟨unit, hunit, mem_unitMatches hbatch hm⟩)
  · intro unit _
    rw [failureWarnings_eq_nil_iff, exists_unitAnswer_eq_ok_iff]

/-- A file `x.py` with one line, and nothing else. -/
def oneLineTree : Tree where
  top := [("x.py", .file [97])]
  regular := by decide +kernel

/-- A search of the folder's source files for a name or a part of one. -/
def requestFor (query : String) (exact : Bool) (h : Text.allBlank query = false) : Request :=
  ⟨.here, query, exact, true, [".py"], 5, false, h, by decide⟩

/-- A search for declarations of `A`. -/
def requestForA : Request := requestFor "A" true rfl

/-- A class `A` in a line of `x.py`. -/
def classAt (line : Int) : PreparedSymbol :=
  ⟨⟨"A", "m.A", "class", ⟨"x.py", line, 0⟩, [], []⟩, .classDecl, [⟨"x.py", line, 0⟩], []⟩

/-- A unit described by a file of this name. -/
def unitCalled (name : String) : Path := ⟨.relative, [name]⟩

/-- A backend with the units `bad`, which is prepared as given, and `good`, which finds a
class in the file; its handles are released as given. -/
def twoUnits (bad : PreparedUnit) (release : String → Except Failure String) :
    Searcher String PreparedSymbol (List String) where
  settings := {}
  backend := { Script.toBackend ⟨{ name := "prepared" },
      [("bad", bad), ("good", ⟨none, none, some [classAt 1]⟩)]⟩ with
    discover := fun _ _ level =>
      .ok (if level = .solution then [unitCalled "bad", unitCalled "good"] else [])
    release }
  sink := Sink.collecting

/-- Here `bad` finds a class in the file and another one behind its end. -/
def halfBroken : Searcher String PreparedSymbol (List String) :=
  twoUnits ⟨none, none, some [classAt 1, classAt 7]⟩ .ok

/-- What becomes of the two units: the first one fails, and the second has a match. -/
theorem unitAnswer_halfBroken :
    halfBroken.unitAnswer oneLineTree requestForA (unitCalled "bad") =
        .error (.outOfRange 6 1) ∧
      halfBroken.unitAnswer oneLineTree requestForA (unitCalled "good") =
        .ok [⟨"x.py", 1, "m.A", .classDecl, ">>> a"⟩] := by
  constructor <;> decide +kernel

/-- The failures of both units stay inside their runs. -/
theorem contained_halfBroken :
    ∀ unit ∈ [unitCalled "bad", unitCalled "good"],
      halfBroken.Contained oneLineTree requestForA unit := by
  intro unit hunit
  obtain ⟨hbad, hgood⟩ := unitAnswer_halfBroken
  refine ⟨fun handle _ => ⟨handle, rfl⟩, fun f hf => ?_⟩
  rcases List.mem_pair.1 hunit with hunit | hunit <;> rw [hunit] at hf
  · rw [hbad] at hf
    exact ⟨_, by rw [← Except.error.inj hf]; rfl⟩
  · simp [hgood] at hf

/-- The hypotheses of `searchUnits_isolates_failures` are satisfiable: of the units `bad` and
`good` the first fails behind its first match, and only the second has results. -/
theorem searchUnits_isolates_failures_halfBroken :
    (∀ unit ∈ [unitCalled "bad", unitCalled "good"],
      halfBroken.Contained oneLineTree requestForA unit) ∧ halfBroken.sink.TakesAll ∧
    ∃ merged after,
      (halfBroken.searchUnits oneLineTree requestForA
          [unitCalled "bad", unitCalled "good"]).result ⟨[], [], []⟩ = (.ok merged, after) ∧
      merged = [⟨"x.py", 1, "m.A", .classDecl, ">>> a"⟩] ∧
      after.warnings = ["Could not analyze bad: target_index 6 out of range for 1 lines"] := by
  obtain ⟨hbad, hgood⟩ := unitAnswer_halfBroken
  have hsink : halfBroken.sink.TakesAll := fun _ _ => rfl
  obtain ⟨merged, after, hrun, -, hwarnings, -, -, -, hmerged, -⟩ :=
    searchUnits_isolates_failures [unitCalled "bad", unitCalled "good"] ⟨[], [], []⟩
      contained_halfBroken hsink
  refine ⟨contained_halfBroken, hsink, merged, after, hrun, ?_, ?_⟩
  · rw [hmerged, List.flatMap_cons, List.flatMap_cons, unitMatches, unitMatches, hbad, hgood]
    simp [Except.toOption, firstReports, Match.isFirst]
  · rw [hwarnings, List.flatMap_cons, List.flatMap_cons, failureWarnings, failureWarnings, hbad,
      hgood]
    decide

end Searcher
end DeclSearch
