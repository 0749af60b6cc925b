/-
# Asking for references

A search that asks for references reports more of every symbol, and that is all.  What it reports
besides can be shown, so no unit fails by it, and every symbol is reported by its declaration
first, so no unit has matches by it alone.  The answer of a unit is therefore what it is without
references when these are taken out (`unitAnswer_without_references`).

Merging keeps one match of each site, and the kind is a part of the site, so references leave
the declarations alone there too.  The two searches go the same way but for the questions that they
put to the handles of their units (`Record.unasked`), and the outcome without references is the one
with them, less the references (`references_only_add`).
-/

import DeclSearch.Proofs.Analysis
import DeclSearch.Proofs.Simulations

namespace DeclSearch

open Workspace (Path Tree)

/-- The matches that are no references. -/
def withoutReferences (l : List Match) : List Match := l.filter fun m => m.kind ≠ .reference

/-- References may be left out of batches before they are put together or afterwards. -/
theorem withoutReferences_flatten (batches : List (List Match)) :
    withoutReferences batches.flatten = (batches.map withoutReferences).flatten :=
  List.filter_flatten

/-- References may be taken out before or behind the merging. -/
theorem sifts_withoutReferences : Searcher.Sifts withoutReferences where
  flatten := withoutReferences_flatten
  distinctSites l :=
    Searcher.filter_distinctSites (q := fun x => x.kind ≠ .reference) (fun _ _ => Iff.rfl) l

/-- References may be left out before the first reports are taken or afterwards, as a reference is
at a site of its own. -/
theorem withoutReferences_firstReports (l : List Match) :
    withoutReferences (firstReports l) = firstReports (withoutReferences l) := by
  rw [← Searcher.distinctSites_nil, ← Searcher.distinctSites_nil,
    sifts_withoutReferences.distinctSites]

/-! ### Records but for the questions -/

/-- Whether an event is a question to a handle. -/
def Event.isQuestion {H : Type} : Event H → Bool
  | .queried _ _ => true
  | _ => false

/-- The events but for the questions. -/
def unasked {H : Type} (events : List (Event H)) : List (Event H) :=
  events.filter fun e => !e.isQuestion

/-- The record but for the questions. -/
def Record.unasked {H σ : Type} (record : Record H σ) : Record H σ :=
  { record with events := DeclSearch.unasked record.events }

/-- Whether two records are the same but for the questions. -/
def Record.SameUnasked {H σ : Type} (record other : Record H σ) : Prop :=
  record.unasked = other.unasked

section

variable {H S σ : Type} {record other : Record H σ}

/-- Two records agree but for what was asked if the other events, the warnings and the sinks
agree. -/
theorem Record.sameUnasked_iff : record.SameUnasked other ↔
    DeclSearch.unasked record.events = DeclSearch.unasked other.events ∧
      record.warnings = other.warnings ∧ record.sink = other.sink := by
  simp [SameUnasked, Record.unasked]

/-- Records that are the same but for the questions stay so by events that are. -/
theorem Record.SameUnasked.notingAll {events events' : List (Event H)}
    (h : record.SameUnasked other)
    (hevents : DeclSearch.unasked events = DeclSearch.unasked events') :
    (record.notingAll events).SameUnasked (other.notingAll events') := by
  obtain ⟨hbefore, hwarnings, hsink⟩ := sameUnasked_iff.1 h
  refine sameUnasked_iff.2 ⟨?_, hwarnings, hsink⟩
  unfold DeclSearch.unasked at hbefore hevents ⊢
  rw [Record.notingAll, Record.notingAll, List.filter_append, List.filter_append, hbefore, hevents]

namespace Searcher

variable (searcher : Searcher H S σ) (tree : Tree) (r : Request)

/-- What a search records, and what it warns of, does not depend on the questions before. -/
theorem alike_sameUnasked : Alike Record.SameUnasked searcher searcher where
  settings := rfl
  backend := rfl
  warnings _ _ h := (Record.sameUnasked_iff.1 h).2.1
  noteAll _ _ _ h := ⟨rfl, h.notingAll rfl⟩
  warn message record before h := by
    obtain ⟨hevents, hwarnings, hsink⟩ := Record.sameUnasked_iff.1 h
    rw [Run.result_warn, Run.result_warn, Except.map_id]
    refine ⟨by rw [hsink]; rfl, Record.sameUnasked_iff.2 ⟨?_, ?_, ?_⟩⟩
    · unfold unasked at hevents ⊢
      rw [Record.warned, Record.warned, List.filter_append, List.filter_append, hevents]
    · rw [Record.warned, Record.warned, hwarnings]
    · rw [Record.warned, Record.warned, hsink]

/-- Whatever is asked of a unit, it is compiled and released alike. -/
theorem unasked_unitEvents (unit : Path) :
    unasked (searcher.unitEvents tree r unit) =
      .compiling unit ::
        match searcher.backend.compile tree unit with
        | .error _ => []
        | .ok handle => .compiled unit handle :: unasked (searcher.closing unit handle) := by
  have hasking (handle : H) : ∀ e ∈ searcher.asking tree r unit handle, e.isQuestion := by
    intro e he
    rw [List.eq_of_mem_replicate he]
    rfl
  unfold unasked unitEvents
  rcases searcher.backend.compile tree unit with _ | handle
  · simp [Event.isQuestion]
  · simpa [Event.isQuestion, List.filter_append] using hasking handle

end Searcher

end

namespace Python

variable {σ : Type} {settings : Settings} {excludedDirs : List String} {sink : Sink σ}
  {tree : Tree} {r : Request} {unit : Path} {p : Project}

/-- What is reported for a symbol, with references and without: all that it is reported by
besides its declaration are references, and these can be shown. -/
theorem matchesOf_without_references {s : Symbol} (hused : ∀ l ∈ p.references s, l.Shown tree) :
    ((searcher settings excludedDirs sink).matchesOf tree
        { r with references := false } p s).answer =
      withoutReferences <$> ((searcher settings excludedDirs sink).matchesOf tree
        { r with references := true } p s).answer := by
  let report (references : Bool) :=
    ((searcher settings excludedDirs sink).matchesOf tree { r with references } p s).answer
  have hdeclared : report false = [s.location].mapM
      (Searcher.matchAt tree s.qualifiedName (kindOf s)) := matchesOf_of_declarations rfl p s
  obtain ⟨used, hreferences⟩ : ∃ used,
      (p.references s).mapM (Searcher.matchAt tree s.qualifiedName .reference) = .ok used :=
    (Except.exists_mapM_eq_ok_iff _ _).2 fun l hl =>
      (Searcher.exists_matchAt_eq_ok_iff tree _ _ l).2 (hused l hl)
  have hboth : report true = (· ++ used) <$> report false := by
    have hanswer := Searcher.answer_matchesOf (searcher settings excludedDirs sink) tree
      { r with references := true } p s
    refine hanswer.trans ?_
    change ([s.location].mapM (Searcher.matchAt tree s.qualifiedName (kindOf s)) >>= fun declared =>
      (p.references s).mapM (Searcher.matchAt tree s.qualifiedName .reference) >>= fun used =>
        pure (declared ++ used)) = _
    rw [hreferences, hdeclared, map_eq_pure_bind]
    rfl
  -- Leaving out references keeps what is reported for the declaration and drops all the rest.
  change report false = withoutReferences <$> report true
  rw [hboth]
  rcases hreport : report false with f | declared
  · rfl
  · refine congrArg Except.ok ?_
    have hkept : withoutReferences declared = declared := by
      refine List.filter_eq_self.2 fun m hm => ?_
      rw [Searcher.kind_of_mapM_matchAt (hdeclared.symm.trans hreport) m hm]
      simpa using kindOf_ne_reference s
    have hdropped : withoutReferences used = [] := by
      refine List.filter_eq_nil_iff.2 fun m hm => ?_
      simpa using Searcher.kind_of_mapM_matchAt hreferences m hm
    rw [withoutReferences, List.filter_append]
    change declared = withoutReferences declared ++ withoutReferences used
    rw [hkept, hdropped, List.append_nil]

/-- **The answer of a unit without references** is the answer with them, less the references. Asking
for references makes no unit fail, as each of them can be shown (`shown_of_mem_references`), and it
changes nothing else of what is reported for a symbol. -/
theorem unitAnswer_without_references (hunit : unit.Proper) :
    (searcher settings excludedDirs sink).unitAnswer tree { r with references := false } unit =
      withoutReferences <$> (searcher settings excludedDirs sink).unitAnswer tree
        { r with references := true } unit := by
  let query (references : Bool) (p : Project) :=
    ((searcher settings excludedDirs sink).queryUnit tree { r with references } p).answer
  change ((backend excludedDirs).compile tree unit >>= query false) =
    withoutReferences <$> ((backend excludedDirs).compile tree unit >>= query true)
  rcases hp : (backend excludedDirs).compile tree unit with f | p
  · rfl
  · change query false p = withoutReferences <$> query true p
    let report (references : Bool) (s : Symbol) :=
      ((searcher settings excludedDirs sink).matchesOf tree { r with references } p s).answer
    have hquery (references : Bool) : query references p =
        List.flatten <$> (p.find r.nameTest).mapM (report references) := by
      rw [map_eq_pure_bind]
      exact Searcher.answer_queryUnit _ tree { r with references } p
    have hreport : ∀ s ∈ p.find r.nameTest, report false s = withoutReferences <$> report true s :=
      fun s _ => matchesOf_without_references fun l => shown_of_mem_references hunit hp
    rw [hquery, hquery, mapM_eq_map_mapM hreport]
    rcases (p.find r.nameTest).mapM (report true) with f | batches
    · rfl
    · exact congrArg Except.ok (withoutReferences_flatten batches).symm

/-- Running a unit does the same without references but for the questions, and its answer is that
with them, less the references. -/
theorem runUnit_without_references (hunit : unit.Proper) :
    Run.Follows Record.SameUnasked (Except.map withoutReferences)
      ((searcher settings excludedDirs sink).runUnit tree { r with references := false } unit)
      ((searcher settings excludedDirs sink).runUnit tree { r with references := true } unit) := by
  intro record before h
  rw [Searcher.result_runUnit, Searcher.result_runUnit,
    Searcher.unitResult_of_contained (contained unit),
    Searcher.unitResult_of_contained (contained unit), unitAnswer_without_references hunit]
  refine ⟨?_, h.notingAll ?_⟩
  · rcases (searcher settings excludedDirs sink).unitAnswer tree { r with references := true } unit
      <;> rfl
  · rw [Searcher.unasked_unitEvents, Searcher.unasked_unitEvents]

/-- A unit that has matches has some that are no references: every symbol is reported by its
declaration. -/
theorem exists_declaration_of_mem_unitMatches {m : Match}
    (hm : m ∈ (searcher settings excludedDirs sink).unitMatches tree r unit) :
    ∃ declared ∈ (searcher settings excludedDirs sink).unitMatches tree r unit,
      declared.kind ≠ .reference := by
  obtain ⟨p, s, reports, -, hs, -, hreports⟩ := Searcher.exists_of_mem_unitMatches hm
  obtain ⟨declared, used, rfl, hsite, -, -⟩ := exists_of_matchesOf_eq_ok hs
  refine ⟨declared, hreports declared List.mem_cons_self, ?_⟩
  rw [show declared.kind = kindOf s from congrArg Match.Site.kind hsite]
  exact kindOf_ne_reference s

/-- The results of a tier are none only if none of them is left without references. -/
theorem isEmpty_withoutReferences {units : List Path} {record after : Record Project σ}
    {merged : List Match}
    (h : ((searcher settings excludedDirs sink).searchUnits tree r units).result record =
      (.ok merged, after)) :
    (withoutReferences merged).isEmpty = merged.isEmpty := by
  obtain ⟨-, rfl, -⟩ := Searcher.ok_of_result_searchUnits h
  rw [withoutReferences_firstReports, Bool.eq_iff_iff, List.isEmpty_iff, List.isEmpty_iff,
    Searcher.firstReports_eq_nil_iff, Searcher.firstReports_eq_nil_iff]
  refine ⟨fun hnone => ?_, fun hnone => by rw [hnone]; rfl⟩
  by_contra hsome
  obtain ⟨m, hm⟩ := List.exists_mem_of_ne_nil _ hsome
  obtain ⟨unit, hunit, hm⟩ := List.mem_flatMap.1 hm
  obtain ⟨declared, hdeclared, hkind⟩ := exists_declaration_of_mem_unitMatches hm
  refine List.filter_eq_nil_iff.1 hnone declared (List.mem_flatMap.2 ⟨unit, hunit, hdeclared⟩) ?_
  simpa using hkind

/-- The units of a search go the same way with references and without. -/
theorem unitsFollow_without_references (hroot : r.root.Proper) :
    Searcher.UnitsFollow Record.SameUnasked withoutReferences (searcher settings excludedDirs sink)
      (searcher settings excludedDirs sink) tree { r with references := false }
      { r with references := true } where
  sifts := sifts_withoutReferences
  unit _ _ hdiscover unit hunit := runUnit_without_references
    (Tree.proper_of_mem_walk hroot unit (mem_walk_of_discover hdiscover hunit))
  isEmpty _ _ h := by
    obtain ⟨before, after, hmerged⟩ := h
    exact isEmpty_withoutReferences hmerged

/-- **Asking for references only adds references.**  Where a search asks for them and where it
does not, it leaves the same record but for the questions to the units, so it gives the same
warnings to the sink, and it fails in the same way if it fails.  If it completes, the strategies and
the warnings are the same, the results are the same if the text has answered, and otherwise the
results without references are those with them, less the references, in order. -/
theorem references_only_add (hroot : r.root.Proper) (record : Record Project σ) :
    let run (references : Bool) :=
      ((searcher settings excludedDirs sink).search tree { r with references }).result record
    (run false).2.unasked = (run true).2.unasked ∧
      (run false).1 =
        match (run true).1 with
        | .ok o => .ok {
            request := { r with references := false }
            results :=
              if o.strategy = "text" then o.results
              else o.results.filter fun m => m.kind ≠ .reference
            strategy := o.strategy
            warnings := o.warnings }
        | .error f => .error f := by
  intro run
  have hunits := @unitsFollow_without_references σ settings excludedDirs sink tree r hroot
  obtain ⟨hresult, hafter⟩ := Searcher.UnitsFollow.search
    (Searcher.alike_sameUnasked (searcher settings excludedDirs sink)) hunits record record rfl
  refine ⟨hafter, hresult.trans ?_⟩
  change (run true).1.map _ = _
  rcases (run true).1 with f | o <;> rfl

/-- A module that declares a class and uses it, and that describes its unit itself. -/
def usedOnce : Tree where
  top := [("setup.py", .file (Text.bytesOf "class A: pass\nA()\n".toList))]
  regular := by decide +kernel

/-- The hypotheses of `references_only_add` are satisfiable: with references the class is found
where it is declared and where it is used, and without them where it is declared. -/
theorem references_only_add_usedOnce :
    Searcher.requestForA.root.Proper ∧
    (((searcher {} [] Sink.collecting).search usedOnce
      { Searcher.requestForA with references := true }).result ⟨[], [], []⟩).1 =
        .ok ⟨{ Searcher.requestForA with references := true },
          [⟨"setup.py", 1, "setup.A", .classDecl, ">>> class A: pass\n    A()"⟩,
            ⟨"setup.py", 2, "setup.A", .reference, "    class A: pass\n>>> A()"⟩], "project", []⟩ ∧
    (((searcher {} [] Sink.collecting).search usedOnce
      { Searcher.requestForA with references := false }).result ⟨[], [], []⟩).1 =
        .ok ⟨{ Searcher.requestForA with references := false },
          [⟨"setup.py", 1, "setup.A", .classDecl, ">>> class A: pass\n    A()"⟩],
          "project", []⟩ := by
  have hroot : Searcher.requestForA.root.Proper := by decide +kernel
  have hwith : (((searcher {} [] Sink.collecting).search usedOnce
      { Searcher.requestForA with references := true }).result ⟨[], [], []⟩).1 =
        .ok ⟨{ Searcher.requestForA with references := true },
          [⟨"setup.py", 1, "setup.A", .classDecl, ">>> class A: pass\n    A()"⟩,
            ⟨"setup.py", 2, "setup.A", .reference, "    class A: pass\n>>> A()"⟩],
          "project", []⟩ := by
    decide +kernel
  obtain ⟨-, hwithout⟩ :=
    @references_only_add _ {} [] Sink.collecting usedOnce Searcher.requestForA hroot ⟨[], [], []⟩
  dsimp only at hwithout
  rw [hwith] at hwithout
  exact ⟨hroot, hwith, hwithout⟩

end Python
end DeclSearch
