/-
# Searches

A search goes through its tiers until one of them has results: the units described on
the solution level, the units described on the project level, and in the end the text of
all candidate files.  The first two are left out when the backend does not cover the
extensions of the request.

The units of a tier are compiled, queried and released one by one.  A unit that fails
contributes a warning and no results, provided that its failure can be put into words and
its handle released; of several reports of one site only the first stays.  What happens on
the way is recorded as a list of events, each question to the handle of a unit among them,
and the record and the state of the sink are kept also when the search fails.
-/

import DeclSearch.Backend.Basic
import DeclSearch.Sink
import DeclSearch.TextSearch

namespace DeclSearch

open Workspace (Path Tree)

/-- A step of a search that others can see. -/
inductive Event (H : Type) where
  | compiling (unit : Path)
  | compiled (unit : Path) (handle : H)
  | queried (unit : Path) (handle : H)
  | released (unit : Path) (handle left : H)
  | scanned (file : Path)
  | warned (message : String)
  deriving Repr

/-- What is remembered during a search: the events and the warnings so far, and the state
of the sink. -/
structure Record (H σ : Type) where
  events : List (Event H)
  warnings : List String
  sink : σ

/-- A part of a search: it adds to the record and may fail. -/
abbrev Run (H σ α : Type) := ExceptT Failure (StateM (Record H σ)) α

/-- A query to the handle of a unit: what it comes to, and the number of questions that it
has put to the handle by then. -/
structure Query (α : Type) where
  answer : Except Failure α
  questions : Nat

namespace Query

/-- A question to the handle. -/
def ask {α : Type} (answer : Except Failure α) : Query α := ⟨answer, 1⟩

instance : Monad Query where
  pure a := ⟨.ok a, 0⟩
  bind query next :=
    match query.answer with
    | .error failure => ⟨.error failure, query.questions⟩
    | .ok a => ⟨(next a).answer, query.questions + (next a).questions⟩

instance : MonadLift (Except Failure) Query := ⟨fun answer => ⟨answer, 0⟩⟩

end Query

/-- What a search is run with. -/
structure Searcher (H S σ : Type) where
  settings : Settings
  backend : Backend H S
  sink : Sink σ

namespace Run

variable {H σ α : Type}

/-- Records an event. -/
def note (e : Event H) : Run H σ Unit :=
  modify fun record => { record with events := record.events ++ [e] }

/-- Records some events. -/
def noteAll (events : List (Event H)) : Run H σ Unit :=
  modify fun record => { record with events := record.events ++ events }

/-- Keeps a warning and hands it to the sink. -/
def warn (sink : Sink σ) (message : String) : Run H σ Unit := do
  note (.warned message)
  -- The warning is kept before the sink is asked, which may fail.
  modify fun record => { record with warnings := record.warnings ++ [message] }
  let record ← get
  let (state, answer) := sink.warn message record.sink
  set { record with sink := state }
  answer

/-- The record and the result of a run that starts with a state of the sink. -/
def start (run : Run H σ α) (sink : σ) : Except Failure α × Record H σ :=
  StateT.run (ExceptT.run run) ⟨[], [], sink⟩

end Run

namespace Searcher

variable {H S σ : Type} (searcher : Searcher H S σ) (tree : Tree) (r : Request)

/-- The match at a location, with its lines around it. -/
def matchAt (name : String) (kind : Kind) (location : Location) : Except Failure Match :=
  match tree.readLines (Path.ofString location.file) with
  | .error e => .error (Failure.ofSource e)
  | .ok lines => do
    let context ← Preview.extract lines (location.line - 1)
    return ⟨location.file, location.line, name, kind, context⟩

/-- The matches for one symbol of a unit. -/
def matchesOf (handle : H) (s : S) : Query (List Match) := do
  let name := (searcher.backend.symbol s).qualifiedName
  let kind ← searcher.backend.kindOf s
  let locations ← searcher.backend.declarations s
  let declared ← (locations.mapM (matchAt tree name kind) : Except Failure (List Match))
  if r.references then
    let locations ← Query.ask (searcher.backend.references s handle)
    let used ← (locations.mapM (matchAt tree name .reference) : Except Failure (List Match))
    return declared ++ used
  else return declared

/-- The answer of a unit to a request. -/
def queryUnit (handle : H) : Query (List Match) := do
  let symbols ← Query.ask (searcher.backend.find handle r.nameTest)
  return (← symbols.mapM (searcher.matchesOf tree r handle)).flatten

/-- Compiles, queries and releases a unit: its matches, or the report of its failure.  The
run itself fails when there is no such report and when the release fails. -/
def runUnit (unit : Path) : Run H σ (Except String (List Match)) := do
  Run.note (.compiling unit)
  match searcher.backend.compile tree unit with
  | .error failure =>
    (Failure.settle (.error failure) : Except Failure (Except String (List Match)))
  | .ok handle =>
    Run.note (.compiled unit handle)
    let query := searcher.queryUnit tree r handle
    Run.noteAll (List.replicate query.questions (.queried unit handle))
    -- The handle is released whatever the query has come to.
    let left ← (searcher.backend.release handle : Except Failure H)
    Run.note (.released unit handle left)
    (Failure.settle query.answer : Except Failure (Except String (List Match)))

/-- The warning about a unit that failed. -/
def unitWarning (unit : Path) (report : String) : String :=
  "Could not analyze " ++ unit.render ++ ": " ++ report

/-- What a unit contributes to its tier: its matches, or a warning. -/
def contribution (unit : Path) : Except String (List Match) → Run H σ (List Match)
  | .ok batch => return batch
  | .error report => do
    Run.warn searcher.sink (unitWarning unit report)
    return []

/-- The matches whose site was not seen before, in order. -/
def distinctSites (seen : List Match.Site) : List Match → List Match
  | [] => []
  | m :: rest =>
    if seen.contains m.site then distinctSites seen rest
    else m :: distinctSites (m.site :: seen) rest

/-- The merged results of the units of a tier. -/
def searchUnits (units : List Path) : Run H σ (List Match) := do
  let answers ← units.mapM (searcher.runUnit tree r)
  let batches ← (units.zip answers).mapM fun (unit, answer) => searcher.contribution unit answer
  return distinctSites [] batches.flatten

/-- What a candidate file contributes to a text search: its matches, or a warning. -/
def scanned (file : Path) : Run H σ (List Match) := do
  Run.note (.scanned file)
  match TextSearch.scanFile searcher.settings tree r file with
  | .ok batch => return batch
  | .error fault => do
    Run.warn searcher.sink (TextSearch.warning file fault)
    return []

/-- The results of a text search. -/
def searchText : Run H σ (List Match) := do
  if searcher.settings.maxWorkers ≤ 0 then throw .noWorkers
  (Failure.ofAccess r.root.checkNul : Except Failure Unit)
  let files := TextSearch.candidates searcher.settings tree r
  return (← files.mapM (searcher.scanned tree r)).flatten

/-- The outcome of a search that ended with a strategy. -/
def outcome (results : List Match) (strategy : String) : Run H σ Outcome := do
  return ⟨r, results, strategy, (← get).warnings⟩

/-- Tries the units of some levels one after another and the text in the end. -/
def searchLevels : List Level → Run H σ Outcome
  | [] => do outcome r (← searcher.searchText tree r) "text"
  | level :: rest => do
    let units ← (searcher.backend.discover tree r.root level : Except Failure (List Path))
    let results ← searcher.searchUnits tree r units
    if results.isEmpty then searchLevels rest else outcome r results level.name

/-- Runs a request through the tiers. -/
def search : Run H σ Outcome := do
  let isFolder ← (Failure.ofAccess (tree.isFolder r.root) : Except Failure Bool)
  if !isFolder then throw (.noWorkspace r.root)
  let covered ← (searcher.backend.covers r.extensions : Except Failure Bool)
  searcher.searchLevels tree r (if covered then [.solution, .project] else [])

end Searcher
end DeclSearch
