/-
# What the events of a search tell

All that a search does to its record it does by noting events and by giving warnings, and a warning
is noted as an event.  So the record behind a search is told by the events that the search adds: the
warnings are those among them, and the state of the sink is the one that these warnings lead to
(`Record.after`), whether the search ends well or fails, and whether the sink takes what it is given
or not (`Searcher.tells_search`).

The events themselves come in pieces (`Searcher.Trace`).  A unit that is run adds all of its events
at once, and between the runs of units there are files that are scanned and warnings.  The lemmas
about `Searcher.Tells` pass this on through every way in which runs are put together.
-/

import DeclSearch.Proofs.Tier

namespace DeclSearch

open Workspace (Path Tree)

variable {H S σ α β : Type}

/-- The warning that an event is. -/
def Event.warning? : Event H → Option String
  | .warned message => some message
  | _ => none

/-- The record behind more events: the warnings among them were kept and given to the sink. -/
def Record.after (record : Record H σ) (sink : Sink σ) (events : List (Event H)) : Record H σ where
  events := record.events ++ events
  warnings := record.warnings ++ events.filterMap Event.warning?
  sink := sink.feed (events.filterMap Event.warning?) record.sink

namespace Record

/-- Without events a record is as it was. -/
theorem after_nil (record : Record H σ) (sink : Sink σ) : record.after sink [] = record := by
  simp [after, Sink.feed]

/-- Events are put on a record one list behind the other. -/
theorem after_append (record : Record H σ) (sink : Sink σ) (first second : List (Event H)) :
    (record.after sink first).after sink second = record.after sink (first ++ second) := by
  simp [after, Sink.feed, List.foldl_append]

/-- Noting an event that is no warning puts that event on the record. -/
theorem noting_eq_after (record : Record H σ) (sink : Sink σ) {e : Event H}
    (he : e.warning? = none) : record.noting e = record.after sink [e] := by
  simp [noting, after, he, Sink.feed]

/-- A warning is put on the record and told to the sink. -/
theorem warned_eq_after (record : Record H σ) (sink : Sink σ) (message : String) :
    record.warned sink message = record.after sink [.warned message] := by
  simp [warned, after, Event.warning?, Sink.feed]

/-- Noting events among which there is no warning puts these on the record. -/
theorem notingAll_eq_after (record : Record H σ) (sink : Sink σ) {events : List (Event H)}
    (hevents : events.filterMap Event.warning? = []) :
    record.notingAll events = record.after sink events := by
  simp [notingAll, after, hevents, Sink.feed]

end Record

namespace Searcher

variable (searcher : Searcher H S σ) (tree : Tree) (r : Request)

/-- The traces that a search can leave: runs of units, scanned files and warnings, one after
another. -/
inductive Trace : List (Event H) → Prop where
  | nil : Trace []
  | unit (unit : Path) {events : List (Event H)} (rest : Trace events) :
    Trace (searcher.unitEvents tree r unit ++ events)
  | scanned (file : Path) {events : List (Event H)} (rest : Trace events) :
    Trace (.scanned file :: events)
  | warned (message : String) {events : List (Event H)} (rest : Trace events) :
    Trace (.warned message :: events)

/-- Whether all that a run does to a record is told by the events that it adds, which are a
trace. -/
def Tells (run : Run H σ α) : Prop :=
  ∀ record, ∃ events, searcher.Trace tree r events ∧
    (run.result record).2 = record.after searcher.sink events

variable {searcher tree r}

/-- One trace behind another is a trace of the same search. -/
theorem Trace.append {first second : List (Event H)} (h : searcher.Trace tree r first)
    (hsecond : searcher.Trace tree r second) : searcher.Trace tree r (first ++ second) := by
  induction h with
  | nil => exact hsecond
  | unit unit _ ih => exact List.append_assoc .. ▸ ih.unit unit
  | scanned file _ ih => exact ih.scanned file
  | warned message _ ih => exact ih.warned message

namespace Tells

/-- A run that leaves every record as it is. -/
theorem of_unchanged {run : Run H σ α} (h : ∀ record, (run.result record).2 = record) :
    searcher.Tells tree r run := by
  intro record
  exact ⟨[], .nil, (h record).trans (record.after_nil searcher.sink).symm⟩

/-- A run that only gives a result tells nothing. -/
theorem pure (a : α) : searcher.Tells tree r (pure a : Run H σ α) := of_unchanged fun _ => rfl

/-- A run that only fails tells nothing. -/
theorem throw (f : Failure) : searcher.Tells tree r (throw f : Run H σ α) :=
  of_unchanged fun _ => rfl

/-- An attempt that leaves the record alone tells nothing. -/
theorem lift (e : Except Failure α) : searcher.Tells tree r (liftM e : Run H σ α) :=
  of_unchanged fun record => congrArg Prod.snd (Run.result_lift e record)

/-- **One run behind another** tells what the first tells and then what the second does. -/
theorem bind {run : Run H σ α} {next : α → Run H σ β} (hrun : searcher.Tells tree r run)
    (hnext : ∀ a, searcher.Tells tree r (next a)) : searcher.Tells tree r (run >>= next) := by
  intro record
  obtain ⟨first, hfirst, hafter⟩ := hrun record
  rw [Run.result_bind]
  rcases hresult : run.result record with ⟨f | a, after⟩ <;> rw [hresult] at hafter
  · exact ⟨first, hfirst, hafter⟩
  · obtain ⟨second, hsecond, hlast⟩ := hnext a after
    refine ⟨first ++ second, hfirst.append hsecond, ?_⟩
    rw [← Record.after_append, ← hafter]
    exact hlast

/-- Runs for the items of a list tell what each of them does.  The induction is on the list. -/
theorem mapM {step : α → Run H σ β} (l : List α) (h : ∀ a ∈ l, searcher.Tells tree r (step a)) :
    searcher.Tells tree r (l.mapM step) := by
  induction l with
  | nil => exact pure []
  | cons a l ih =>
    rw [List.mapM_cons]
    refine bind (h a List.mem_cons_self) fun b => ?_
    exact bind (ih fun c hc => h c (List.mem_cons_of_mem _ hc)) fun bs => pure _

/-- A warning tells itself. -/
theorem warn (message : String) :
    searcher.Tells tree r (Run.warn searcher.sink message : Run H σ Unit) := by
  intro record
  rw [Run.result_warn]
  exact ⟨_, .warned message .nil, record.warned_eq_after searcher.sink message⟩

end Tells

/-- No event of a unit's run is a warning. -/
theorem filterMap_warning?_unitEvents (unit : Path) :
    (searcher.unitEvents tree r unit).filterMap Event.warning? = [] := by
  refine List.filterMap_eq_nil_iff.2 fun e he => ?_
  rcases hcompile : searcher.backend.compile tree unit with f | handle
  · rw [unitEvents_of_failed hcompile] at he
    obtain rfl := List.mem_singleton.1 he
    rfl
  · rw [unitEvents_of_compiled hcompile] at he
    rcases List.mem_cons.1 he with rfl | he
    · rfl
    rcases List.mem_cons.1 he with rfl | he
    · rfl
    rcases List.mem_append.1 he with he | he
    · rw [List.eq_of_mem_replicate he]
      rfl
    · unfold closing at he
      split at he
      · exact absurd he List.not_mem_nil
      · rw [List.mem_singleton.1 he]
        rfl

variable (searcher tree r)

/-- A run of a unit tells its events: that it is compiled, what is asked for, and that the handle is
left. -/
theorem tells_runUnit (unit : Path) : searcher.Tells tree r (searcher.runUnit tree r unit) := by
  intro record
  rw [result_runUnit]
  refine ⟨searcher.unitEvents tree r unit, ?_, ?_⟩
  · simpa using Trace.nil.unit unit
  · exact record.notingAll_eq_after searcher.sink (filterMap_warning?_unitEvents unit)

/-- What a unit contributes tells a warning, if the unit has failed, and nothing otherwise. -/
theorem tells_contribution (unit : Path) (answer : Except String (List Match)) :
    searcher.Tells tree r (searcher.contribution (H := H) unit answer) := by
  cases answer with
  | ok batch => exact .pure batch
  | error report => exact (Tells.warn _).bind fun _ => .pure []

/-- A tier tells the runs of its units and then their warnings. -/
theorem tells_searchUnits (units : List Path) :
    searcher.Tells tree r (searcher.searchUnits tree r units) := by
  refine (Tells.mapM units fun unit _ => searcher.tells_runUnit tree r unit).bind fun answers => ?_
  refine (Tells.mapM _ fun pair _ => ?_).bind fun batches => .pure _
  exact searcher.tells_contribution tree r pair.1 pair.2

/-- A file that is searched tells that it is scanned, and a warning, if it is faulty. -/
theorem tells_scanned (file : Path) : searcher.Tells tree r (searcher.scanned tree r file) := by
  have hnote : searcher.Tells tree r (Run.note (.scanned file) : Run H σ Unit) := fun record =>
    ⟨_, .scanned file .nil, record.noting_eq_after searcher.sink rfl⟩
  unfold scanned
  refine hnote.bind fun _ => ?_
  split
  · exact .pure _
  · exact (Tells.warn _).bind fun _ => .pure []

/-- The text search tells what its files do. -/
theorem tells_searchText : searcher.Tells tree r (searcher.searchText tree r) := by
  have hfiles : searcher.Tells tree r
      ((liftM (Failure.ofAccess r.root.checkNul) : Run H σ Unit) >>= fun _ => do
        return (← (TextSearch.candidates searcher.settings tree r).mapM
          (searcher.scanned tree r)).flatten) := by
    refine (Tells.lift _).bind fun _ => ?_
    exact (Tells.mapM _ fun file _ => searcher.tells_scanned tree r file).bind fun _ => .pure _
  unfold searchText
  split
  · exact (Tells.throw _).bind fun _ => hfiles
  · exact hfiles

/-- A search tells what its levels do, and then what the text search does, if it comes to that. -/
theorem tells_searchLevels (levels : List Level) :
    searcher.Tells tree r (searcher.searchLevels tree r levels) := by
  have houtcome (results : List Match) (strategy : String) :
      searcher.Tells tree r (outcome r results strategy : Run H σ Outcome) :=
    .of_unchanged fun _ => rfl
  induction levels with
  | nil => exact (searcher.tells_searchText tree r).bind fun results => houtcome results "text"
  | cons level rest ih =>
    rw [searchLevels]
    refine (Tells.lift _).bind fun units => ?_
    refine (searcher.tells_searchUnits tree r units).bind fun results => ?_
    split
    · exact ih
    · exact houtcome results level.name

/-- **A search is told by its events**, however it ends and whatever the sink does: the record
behind it is the one in front of it with the events of the search and with the warnings among these.
-/
theorem tells_search : searcher.Tells tree r (searcher.search tree r) := by
  have hlevels : searcher.Tells tree r
      ((liftM (searcher.backend.covers r.extensions) : Run H σ Bool) >>= fun covered =>
        searcher.searchLevels tree r (if covered then [.solution, .project] else [])) :=
    (Tells.lift _).bind fun covered => searcher.tells_searchLevels tree r _
  unfold search
  refine (Tells.lift _).bind fun isFolder => ?_
  split
  · exact (Tells.throw _).bind fun _ => hlevels
  · exact hlevels

/-- The events of a search are a trace. -/
theorem trace_search (state : σ) :
    searcher.Trace tree r ((searcher.search tree r).start state).2.events := by
  obtain ⟨events, htrace, hafter⟩ := searcher.tells_search tree r ⟨[], [], state⟩
  rw [Run.start_eq_result, hafter]
  simpa [Record.after] using htrace

end Searcher

end DeclSearch
