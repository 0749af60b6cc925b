/-
# The choice of a sink

A sink is told of the warnings of a search and nothing else, and whether it takes them is all that
it answers.  So two searches that differ in their sinks alone go the same way, as long as both sinks
take every warning: they end with the same result, the same events and the same warnings
(`Searcher.search_agrees`, `Client.start_search_eq`).
-/

import DeclSearch.Client
import DeclSearch.Proofs.Levels
import DeclSearch.Proofs.Simulations

namespace DeclSearch

open Workspace (Path Tree)

variable {H S σ τ : Type}

/-- Whether two records differ at most in the states of their sinks. -/
structure Record.Agrees (record : Record H σ) (other : Record H τ) : Prop where
  events : record.events = other.events
  warnings : record.warnings = other.warnings

namespace Searcher

variable {searcher : Searcher H S σ} {other : Searcher H S τ}

/-- Whether two searchers differ at most in their sinks, both of which take every warning. -/
structure SameButSink (searcher : Searcher H S σ) (other : Searcher H S τ) : Prop where
  settings : searcher.settings = other.settings
  backend : searcher.backend = other.backend
  takes : searcher.sink.TakesAll
  takes' : other.sink.TakesAll

variable (h : SameButSink searcher other) (tree : Tree) (r : Request)

include h

/-- A warning makes no difference where both sinks take it, and what is recorded makes none. -/
theorem SameButSink.alike : Alike Record.Agrees searcher other where
  settings := h.settings
  backend := h.backend
  warnings _ _ hagrees := hagrees.warnings
  noteAll events _ _ hagrees := ⟨rfl, congrArg (· ++ events) hagrees.events, hagrees.warnings⟩
  warn message record before hagrees := by
    rw [Run.result_warn, Run.result_warn, h.takes, h.takes']
    exact ⟨rfl, congrArg (· ++ [Event.warned message]) hagrees.events,
      congrArg (· ++ [message]) hagrees.warnings⟩

/-- A unit is run in the same way. -/
theorem runUnit_agrees (unit : Path) :
    Run.Follows Record.Agrees id (searcher.runUnit tree r unit) (other.runUnit tree r unit) := by
  unfold runUnit queryUnit matchesOf
  rw [h.backend]
  refine (h.alike.note _).bind fun _ _ => ?_
  split
  · exact .same _
  · refine (h.alike.note _).bind fun _ _ => (h.alike.noteAll _).bind fun _ _ => ?_
    exact (Run.Follows.same _).bind fun _ _ => (h.alike.note _).bind fun _ _ => .same _

/-- The units go the same way, and no match is taken out. -/
theorem SameButSink.unitsFollow : UnitsFollow Record.Agrees id searcher other tree r r where
  sifts := .id
  unit _ _ _ unit _ := by
    rw [show (Except.map id : Except String (List Match) → Except String (List Match)) = id from
      funext fun answer => by cases answer <;> rfl]
    exact runUnit_agrees h tree r unit
  isEmpty _ _ _ := rfl

/-- **A search does not depend on which sink takes its warnings.** -/
theorem search_agrees :
    Run.Follows Record.Agrees id (searcher.search tree r) (other.search tree r) := by
  have hfollows : Run.Follows Record.Agrees (sifted r id) (searcher.search tree r)
      (other.search tree r) :=
    @UnitsFollow.search _ _ _ _ _ _ _ _ r _ r.references r.references h.alike
      (h.unitsFollow tree r)
  intro record before hagrees
  obtain ⟨hresult, hafter⟩ := hfollows record before hagrees
  refine ⟨hresult.trans ?_, hafter⟩
  rcases hother : (other.search tree r).result before with ⟨_ | o, after⟩
  · rfl
  · obtain ⟨levels, hcompletes⟩ := completes_of_result_search hother
    have hsame : sifted r id o = o := by
      rw [sifted, id, ite_self, ← hcompletes.request_eq]
    exact congrArg Except.ok hsame

end Searcher

namespace Client

variable {client : Client H S σ} {other : Client H S τ}

/-- **A client's searches do not depend on its sink.** -/
theorem search_agrees (h : Searcher.SameButSink client.toSearcher other.toSearcher) (tree : Tree)
    (a : SearchArguments) :
    Run.Follows Record.Agrees id (client.search tree a) (other.search tree a) := by
  have hrequest : client.request a = other.request a := by
    unfold request
    rw [h.settings]
  unfold search
  rw [hrequest]
  split
  · exact .throw _
  · exact Searcher.search_agrees h tree _

/-- **A client's answers do not depend on its sink**, nor on the state that it is in. -/
theorem start_search_eq (h : Searcher.SameButSink client.toSearcher other.toSearcher) (tree : Tree)
    (a : SearchArguments) (state : σ) (state' : τ) :
    ((client.search tree a).start state).1 = ((other.search tree a).start state').1 :=
  (search_agrees h tree a ⟨[], [], state⟩ ⟨[], [], state'⟩ ⟨rfl, rfl⟩).1.trans
    (congrFun Except.map_id _)

end Client
end DeclSearch
