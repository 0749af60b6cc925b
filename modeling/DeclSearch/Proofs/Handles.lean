/-
# Handles are released once

A unit that is compiled gives a handle, questions are put to it, and then it is released.  In the
trace of a search these events stand next to one another (`Searcher.of_unitEvents_eq`), however the
unit fails and however the search ends: the units of a level are run before any warning is given, so
a sink that fails finds no handle open.  So a handle is asked only between its compilation and its
release, and both stand directly beside the questions (`Searcher.handles_are_released_once`).  What
is left of the handles of projects is empty.
-/

import DeclSearch.Proofs.Projects
import DeclSearch.Proofs.Traces

namespace DeclSearch

open Workspace (Path Tree)

variable {H S σ α : Type}

namespace Event

/-- The unit and the handle of an event that has compiled one. -/
def compiled? : Event H → Option (Path × H)
  | .compiled unit handle => some (unit, handle)
  | _ => none

/-- The unit and the handle of an event that has released one. -/
def released? : Event H → Option (Path × H)
  | .released unit handle _ => some (unit, handle)
  | _ => none

/-- What an event has left of the handle of a unit, if it has released it. -/
def left? (unit : Path) : Event H → Option H
  | .released other _ left => if other = unit then some left else none
  | _ => none

/-- Whether an event belongs to the run of a unit. -/
def isOfUnit : Event H → Bool
  | .scanned _ | .warned _ => false
  | _ => true

end Event

/-- What is left, behind some events, of the handles that were compiled there: what the next release
for the unit has left, and the whole handle if there is none. -/
def handlesLeft : List (Event H) → List H
  | [] => []
  | .compiled unit handle :: rest =>
    (rest.findSome? (Event.left? unit)).getD handle :: handlesLeft rest
  | _ :: rest => handlesLeft rest

namespace Searcher

variable {searcher : Searcher H S σ} {tree : Tree} {r : Request} {unit : Path} {handle : H}

/-- Where an element stands among equal ones with others behind them: it is one of the equal ones,
or it stands behind all of them. -/
theorem of_replicate_append_eq {n : Nat} {a e : α} {tail before after : List α}
    (h : List.replicate n a ++ tail = before ++ e :: after) :
    (e = a ∧ ∃ put, before = List.replicate put a) ∨
      ∃ front, before = List.replicate n a ++ front ∧ tail = front ++ e :: after := by
  rcases List.append_eq_append_iff.1 h with ⟨front, hbefore, htail⟩ | ⟨back, hequal, hrest⟩
  · exact .inr ⟨front, hbefore, htail⟩
  · rcases back with _ | ⟨first, back⟩
    · rw [List.append_nil] at hequal
      exact .inr ⟨[], by rw [hequal, List.append_nil], hrest.symm⟩
    · obtain ⟨rfl, -⟩ := List.cons.inj hrest
      obtain ⟨-, hbefore, hback⟩ := List.append_eq_replicate_iff.1 hequal.symm
      exact .inl ⟨(List.cons.inj hback).1, before.length, hbefore⟩

/-- **Where an event stands in the run of its unit.** -/
theorem of_unitEvents_eq {e : Event H} {before after : List (Event H)}
    (h : searcher.unitEvents tree r unit = before ++ e :: after) :
    e = .compiling unit ∨ ∃ handle, searcher.backend.compile tree unit = .ok handle ∧
      (e = .compiled unit handle ∧
          after = searcher.asking tree r unit handle ++ searcher.closing unit handle ∨
        e = .queried unit handle ∧
          (∃ put, before = .compiling unit :: .compiled unit handle ::
            List.replicate put (.queried unit handle)) ∨
        ∃ left, searcher.backend.release handle = .ok left ∧ e = .released unit handle left ∧
          before = .compiling unit :: .compiled unit handle ::
            searcher.asking tree r unit handle) := by
  rcases hcompile : searcher.backend.compile tree unit with f | handle
  · rw [unitEvents_of_failed hcompile, List.singleton_eq_append_iff] at h
    simp_all
  · rw [unitEvents_of_compiled hcompile] at h
    rcases before with _ | ⟨first, _ | ⟨second, before⟩⟩
    · exact .inl (List.cons.inj h).1.symm
    · refine .inr ⟨handle, rfl, .inl ?_⟩
      simp_all
    · simp only [List.cons_append, List.cons.injEq] at h
      obtain ⟨rfl, rfl, h⟩ := h
      refine .inr ⟨handle, rfl, .inr ?_⟩
      rcases of_replicate_append_eq h with ⟨rfl, put, rfl⟩ | ⟨front, rfl, hclosing⟩
      · exact .inl ⟨rfl, put, rfl⟩
      · rcases hrelease : searcher.backend.release handle with f | left
        · simp [closing, hrelease] at hclosing
        · rw [closing_of_released hrelease, List.singleton_eq_append_iff] at hclosing
          refine .inr ⟨left, rfl, ?_⟩
          simp_all [asking]

/-- **An event of a unit stands in a run of that unit**, the events around it being those of the
run. The trace is a row of such runs, of scans and of warnings, and the event is looked for in them
one after another. -/
theorem Trace.exists_run {events before after : List (Event H)} {e : Event H}
    (h : searcher.Trace tree r events) (he : e.isOfUnit) (hsplit : events = before ++ e :: after) :
    ∃ unit front first second rest, searcher.unitEvents tree r unit = first ++ e :: second ∧
      before = front ++ first ∧ after = second ++ rest := by
  induction h generalizing before with
  | nil => simp at hsplit
  | unit unit _ ih =>
    rcases List.append_eq_append_iff.1 hsplit with ⟨front, rfl, hrest⟩ | ⟨back, hrun, hrest⟩
    · obtain ⟨other, front', first, second, rest, hrun, rfl, rfl⟩ := ih hrest
      exact ⟨other, _, first, second, rest, hrun, (List.append_assoc ..).symm, rfl⟩
    · rcases back with _ | ⟨e', back⟩
      · obtain ⟨other, front', first, second, rest, hrun', hfront, rfl⟩ := @ih [] hrest.symm
        obtain ⟨rfl, rfl⟩ := List.append_eq_nil_iff.1 hfront.symm
        refine ⟨other, before, [], second, rest, hrun', (List.append_nil _).symm, rfl⟩
      · obtain ⟨rfl, rfl⟩ := List.cons.inj hrest
        exact ⟨unit, [], before, back, _, hrun, rfl, rfl⟩
  | scanned file _ ih =>
    rcases before with _ | ⟨first, before⟩
    · simp [← (List.cons.inj hsplit).1, Event.isOfUnit] at he
    · obtain ⟨rfl, hrest⟩ := List.cons.inj hsplit
      obtain ⟨unit, front, first, second, rest, hrun, rfl, rfl⟩ := ih hrest
      exact ⟨unit, _ :: front, first, second, rest, hrun, rfl, rfl⟩
  | warned message _ ih =>
    rcases before with _ | ⟨first, before⟩
    · simp [← (List.cons.inj hsplit).1, Event.isOfUnit] at he
    · obtain ⟨rfl, hrest⟩ := List.cons.inj hsplit
      obtain ⟨unit, front, first, second, rest, hrun, rfl, rfl⟩ := ih hrest
      exact ⟨unit, _ :: front, first, second, rest, hrun, rfl, rfl⟩

/-- Behind a compilation questions are put to the handle, and it is released next. -/
theorem Trace.of_compiled {events before after : List (Event H)} (h : searcher.Trace tree r events)
    (hsplit : events = before ++ .compiled unit handle :: after) :
    searcher.backend.compile tree unit = .ok handle ∧
      ∃ rest, after = searcher.asking tree r unit handle ++
        (searcher.closing unit handle ++ rest) := by
  obtain ⟨unit', front, first, second, rest, hrun, -, rfl⟩ := h.exists_run rfl hsplit
  obtain he | ⟨handle', hcompile, ⟨he, rfl⟩ | ⟨he, -⟩ | ⟨left, -, he, -⟩⟩ :=
    of_unitEvents_eq hrun <;> cases he
  exact ⟨hcompile, rest, List.append_assoc ..⟩

/-- A question stands behind the compilation of its handle, and only other questions stand between
the two. -/
theorem Trace.of_queried {events before after : List (Event H)} (h : searcher.Trace tree r events)
    (hsplit : events = before ++ .queried unit handle :: after) :
    ∃ front put, before = front ++ .compiling unit :: .compiled unit handle ::
      List.replicate put (.queried unit handle) := by
  obtain ⟨unit', front, first, second, rest, hrun, rfl, -⟩ := h.exists_run rfl hsplit
  obtain he | ⟨handle', -, ⟨he, -⟩ | ⟨he, put, rfl⟩ | ⟨left, -, he, -⟩⟩ :=
    of_unitEvents_eq hrun <;> cases he
  exact ⟨front, put, rfl⟩

/-- A handle is released directly behind the questions to it. -/
theorem Trace.of_released {events before after : List (Event H)} {left : H}
    (h : searcher.Trace tree r events)
    (hsplit : events = before ++ .released unit handle left :: after) :
    searcher.backend.compile tree unit = .ok handle ∧
      searcher.backend.release handle = .ok left ∧ ∃ front,
        before = front ++ .compiling unit :: .compiled unit handle ::
          searcher.asking tree r unit handle := by
  obtain ⟨unit', front, first, second, rest, hrun, rfl, -⟩ := h.exists_run rfl hsplit
  obtain he | ⟨handle', hcompile, ⟨he, -⟩ | ⟨he, -⟩ | ⟨left', hrelease, he, rfl⟩⟩ :=
    of_unitEvents_eq hrun <;> cases he
  exact ⟨hcompile, hrelease, front, rfl⟩

/-- The handles that are released are those that were compiled, one by one. -/
theorem Trace.filterMap_released? {events : List (Event H)} (h : searcher.Trace tree r events)
    (hrelease : ∀ handle, ∃ left, searcher.backend.release handle = .ok left) :
    events.filterMap Event.released? = events.filterMap Event.compiled? := by
  induction h with
  | nil => rfl
  | unit unit _ ih =>
    rw [List.filterMap_append, List.filterMap_append, ih]
    rcases hcompile : searcher.backend.compile tree unit with f | handle
    · rw [unitEvents_of_failed hcompile]
      rfl
    · obtain ⟨left, hleft⟩ := hrelease handle
      have hreleased : (searcher.asking tree r unit handle).filterMap Event.released? = [] :=
        List.filterMap_eq_nil_iff.2 fun e he => List.eq_of_mem_replicate he ▸ rfl
      have hcompiled : (searcher.asking tree r unit handle).filterMap Event.compiled? = [] :=
        List.filterMap_eq_nil_iff.2 fun e he => List.eq_of_mem_replicate he ▸ rfl
      rw [unitEvents_of_compiled hcompile, closing_of_released hleft]
      simp only [List.filterMap_append, List.filterMap_cons, hreleased, hcompiled]
      rfl
  | scanned _ _ ih => exact ih
  | warned _ _ ih => exact ih

/-- Questions leave nothing. -/
theorem handlesLeft_asking (events : List (Event H)) :
    handlesLeft (searcher.asking tree r unit handle ++ events) = handlesLeft events := by
  unfold asking
  induction (searcher.queryUnit tree r handle).questions with
  | zero => rfl
  | succ n ih => exact ih

/-- Questions leave no handle of any unit. -/
theorem findSome?_left?_asking (other : Path) :
    (searcher.asking tree r unit handle).findSome? (Event.left? other) = none :=
  List.findSome?_eq_none_iff.2 fun _ he => List.eq_of_mem_replicate he ▸ rfl

/-- What is left of the handles is what their releases have left, where every handle can be
released. -/
theorem Trace.exists_of_mem_handlesLeft {events : List (Event H)} (h : searcher.Trace tree r events)
    (hrelease : ∀ handle, ∃ left, searcher.backend.release handle = .ok left) {left : H}
    (hleft : left ∈ handlesLeft events) :
    ∃ handle, searcher.backend.release handle = .ok left := by
  induction h with
  | nil => exact absurd hleft List.not_mem_nil
  | @unit unit events _ ih =>
    rcases hcompile : searcher.backend.compile tree unit with f | handle
    · rw [unitEvents_of_failed hcompile] at hleft
      exact ih hleft
    · obtain ⟨own, hown⟩ := hrelease handle
      rw [unitEvents_of_compiled hcompile, closing_of_released hown] at hleft
      have hstate : left ∈ own :: handlesLeft events := by
        simpa [handlesLeft, handlesLeft_asking, findSome?_left?_asking, Event.left?,
          List.findSome?_cons] using hleft
      rcases List.mem_cons.1 hstate with rfl | hstate
      · exact ⟨handle, hown⟩
      · exact ih hstate
  | scanned _ _ ih => exact ih hleft
  | warned _ _ ih => exact ih hleft

/-- **Every handle is released once, behind its last question.**  This holds however the search
ends: units may fail anywhere, and the sink may refuse a warning.

Behind a compilation questions are put to the handle, one at least, and what follows is its release,
if that does not fail.  A question stands behind the compilation of its handle, where nothing but
other questions to it stands between the two, and a release stands directly behind the questions, so
nothing is asked or released again.  A unit that is not compiled is not released.  If no release
fails, then the releases are those of the compiled handles, one by one, and nothing is left of the
handles of projects. -/
theorem handles_are_released_once (searcher : Searcher H S σ) (tree : Tree) (r : Request)
    (state : σ) :
    let events := ((searcher.search tree r).start state).2.events
    (∀ before after unit handle, events = before ++ .compiled unit handle :: after →
      searcher.backend.compile tree unit = .ok handle ∧
        ∃ more rest, after = List.replicate (more + 1) (.queried unit handle) ++ rest ∧
          ∀ left, searcher.backend.release handle = .ok left →
            ∃ others, rest = .released unit handle left :: others) ∧
    (∀ before after unit handle, events = before ++ .queried unit handle :: after →
      ∃ front put, before = front ++ .compiling unit :: .compiled unit handle ::
        List.replicate put (.queried unit handle)) ∧
    (∀ before after unit handle left, events = before ++ .released unit handle left :: after →
      searcher.backend.release handle = .ok left ∧ ∃ front more,
        before = front ++ .compiling unit :: .compiled unit handle ::
          List.replicate (more + 1) (.queried unit handle)) ∧
    (∀ unit failure, searcher.backend.compile tree unit = .error failure →
      ∀ handle left, .released unit handle left ∉ events) ∧
    ((∀ handle, ∃ left, searcher.backend.release handle = .ok left) →
      events.filterMap Event.released? = events.filterMap Event.compiled?) ∧
    ∀ settings excludedDirs,
      ∀ p ∈ handlesLeft (((Python.searcher settings excludedDirs searcher.sink).search tree
        r).start state).2.events, p.modules = [] ∧ p.symbols = [] := by
  intro events
  have htrace : searcher.Trace tree r events := searcher.trace_search tree r state
  have hasking (unit : Path) (handle : H) : ∃ more, searcher.asking tree r unit handle =
      List.replicate (more + 1) (.queried unit handle) :=
    (searcher.exists_questions_eq tree r handle).imp fun _ h => congrArg (List.replicate · _) h
  refine ⟨?_, fun _ _ _ _ => htrace.of_queried, ?_, ?_, htrace.filterMap_released?, ?_⟩
  · intro before after unit handle hsplit
    obtain ⟨hcompile, rest, hafter⟩ := htrace.of_compiled hsplit
    obtain ⟨more, hmore⟩ := hasking unit handle
    refine ⟨hcompile, more, _, hmore ▸ hafter, fun left hleft => ⟨rest, ?_⟩⟩
    rw [closing_of_released hleft]
    rfl
  · intro before after unit handle left hsplit
    obtain ⟨-, hrelease, front, hbefore⟩ := htrace.of_released hsplit
    obtain ⟨more, hmore⟩ := hasking unit handle
    exact ⟨hrelease, front, more, hmore ▸ hbefore⟩
  · intro unit failure hfailed handle left hmem
    obtain ⟨before, after, hsplit⟩ := List.append_of_mem hmem
    have hcompile := (htrace.of_released hsplit).1
    rw [hfailed] at hcompile
    cases hcompile
  · -- The handle of a project is emptied when it is released, and it is released.
    intro settings excludedDirs p hp
    have hproject := (Python.searcher settings excludedDirs searcher.sink).trace_search tree r state
    obtain ⟨compiled, hrelease⟩ :=
      hproject.exists_of_mem_handlesLeft (fun handle => ⟨handle.release, rfl⟩) hp
    obtain rfl : compiled.release = p := Except.ok.inj hrelease
    exact ⟨rfl, rfl⟩

/-- In a search through the units `bad` and `good` a sink that refuses the warning about `bad` makes
the search fail; the handles of both units are released by then. -/
theorem handles_are_released_once_refused :
    let refusing := { halfBroken with sink := Sink.calling fun _ => some .unsupported }
    let run := (refusing.search oneLineTree requestForA).start []
    run.1 = .error .unsupported ∧
      run.2.events.filterMap Event.compiled? =
        [(unitCalled "bad", "bad"), (unitCalled "good", "good")] ∧
      run.2.events.filterMap Event.released? =
        [(unitCalled "bad", "bad"), (unitCalled "good", "good")] := by
  intro refusing run
  have hrun : run.1 = .error .unsupported ∧ run.2.events.filterMap Event.compiled? =
      [(unitCalled "bad", "bad"), (unitCalled "good", "good")] := by
    decide +kernel
  refine ⟨hrun.1, hrun.2, ?_⟩
  obtain ⟨-, -, -, -, hreleased, -⟩ := handles_are_released_once refusing oneLineTree requestForA []
  rw [hreleased fun handle => ⟨handle, rfl⟩, hrun.2]

end Searcher
end DeclSearch
