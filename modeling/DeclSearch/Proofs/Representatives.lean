/-
# What stands for a declaration

A tier keeps one match for each file, line and kind.  Every symbol that its units have found
is therefore there by its file, line and kind, but the name at that site is the qualified
name of the symbol that was reported there first: in the order of the units, and inside a
unit in the order of its symbols (`find?_unitMatches`).  References cannot come in between,
since no declaration has their kind (`kindOf_ne_reference`).

The qualified name of a symbol ends in its own name (`endsIn_of_mem_declarations`), so a
symbol is there under its own name when the first report of its site has that name too.
-/

import DeclSearch.Proofs.Levels
import DeclSearch.Proofs.Pieces
import DeclSearch.Proofs.Positions
import DeclSearch.Proofs.Projects

namespace DeclSearch

open Workspace (Path Tree)

namespace Searcher

variable {H S σ : Type} {searcher : Searcher H S σ} {tree : Tree} {r : Request}

/-- A match tells its location, its name and its kind. -/
theorem eq_of_matchAt_eq_ok {name : String} {kind : Kind} {l : Location} {m : Match}
    (h : matchAt tree name kind l = .ok m) : m.site = ⟨l.file, l.line, kind⟩ ∧ m.name = name := by
  unfold matchAt at h
  split at h
  · exact absurd h (by simp)
  · obtain ⟨context, -, h⟩ := Except.bind_eq_ok_iff.1 h
    rw [← Except.ok.inj h]
    exact ⟨rfl, rfl⟩

/-- Matches that are shown under one kind have that kind. -/
theorem kind_of_mapM_matchAt {name : String} {kind : Kind} {locations : List Location}
    {found : List Match} (h : locations.mapM (matchAt tree name kind) = .ok found) :
    ∀ m ∈ found, m.kind = kind := by
  intro m hm
  obtain ⟨l, -, hl⟩ := Except.exists_of_mem_mapM h hm
  exact congrArg Match.Site.kind (eq_of_matchAt_eq_ok hl).1

end Searcher

namespace Python

/-- The site at which a symbol is declared. -/
def declaredSite (s : Symbol) : Match.Site := ⟨s.location.file, s.location.line, kindOf s⟩

/-- No declaration is reported as a reference. -/
theorem kindOf_ne_reference (s : Symbol) : kindOf s ≠ .reference := by
  have hclass (bases decorators : List String) : classKind bases decorators ≠ .reference := by
    unfold classKind
    repeat' split
    all_goals exact Kind.noConfusion
  unfold kindOf
  rcases Category.ofText? s.category with _ | _ | _ | _ <;>
    first
      | exact hclass _ _
      | exact Kind.noConfusion

/-- The qualified name of a symbol that a module declares ends in its own name. -/
theorem endsIn_of_mem_declarations {m : Module} {s : Symbol} (h : s ∈ m.declarations) :
    Text.EndsIn s.qualifiedName s.name := by
  rcases Module.eq_symbol_or_mem_declaredIn h with rfl | h
  · exact Text.endsIn_getLastD_cut m.name
  · obtain ⟨site, name, category, start, bases, decorators, -, -, rfl⟩ :=
      exists_of_mem_declaredIn _ _ s h
    exact .inr ⟨site.qualifier, rfl⟩

variable {σ : Type} {settings : Settings} {excludedDirs : List String} {sink : Sink σ}
  {tree : Tree} {r : Request}

/-- Where no references are asked for, a symbol is reported by its declaration. -/
theorem matchesOf_of_declarations (h : r.references = false) (p : Project) (s : Symbol) :
    ((searcher settings excludedDirs sink).matchesOf tree r p s).answer =
      [s.location].mapM (Searcher.matchAt tree s.qualifiedName (kindOf s)) := by
  rw [Searcher.answer_matchesOf, h]
  exact bind_pure (m := Except Failure) _

/-- What is reported for a symbol: its declaration, and perhaps references. -/
theorem exists_of_matchesOf_eq_ok {p : Project} {s : Symbol} {batch : List Match}
    (h : ((searcher settings excludedDirs sink).matchesOf tree r p s).answer = .ok batch) :
    ∃ declared used, batch = declared :: used ∧ declared.site = declaredSite s ∧
      declared.name = s.qualifiedName ∧ ∀ m ∈ used, m.kind = .reference := by
  rw [Searcher.answer_matchesOf] at h
  obtain ⟨kind, hkind, h⟩ := Except.bind_eq_ok_iff.1 h
  obtain ⟨locations, hlocations, h⟩ := Except.bind_eq_ok_iff.1 h
  obtain ⟨declared, hdeclared, h⟩ := Except.bind_eq_ok_iff.1 h
  obtain rfl : [s.location] = locations := Except.ok.inj hlocations
  obtain ⟨m, rfl⟩ : ∃ m, declared = [m] := by
    rw [Except.mapM_eq_ok_iff] at hdeclared
    exact List.length_eq_one_iff.1 (by simpa using (congrArg List.length hdeclared).symm)
  rw [Except.mapM_eq_ok_iff] at hdeclared
  obtain ⟨hsite, hname⟩ := Searcher.eq_of_matchAt_eq_ok (List.cons.inj hdeclared).1
  rw [← Except.ok.inj hkind] at hsite
  split at h
  · obtain ⟨references, -, h⟩ := Except.bind_eq_ok_iff.1 h
    obtain ⟨used, hused, h⟩ := Except.bind_eq_ok_iff.1 h
    exact ⟨m, used, (Except.ok.inj h).symm, hsite, hname, Searcher.kind_of_mapM_matchAt hused⟩
  · exact ⟨m, [], (Except.ok.inj h).symm, hsite, hname, by simp⟩

/-- Among the batches of some symbols, the first match at a site that is none of references
is that of the first symbol declared there. -/
theorem find?_flatten_batches {p : Project} {symbols : List Symbol} {batches : List (List Match)}
    (h : symbols.map (fun s =>
        ((searcher settings excludedDirs sink).matchesOf tree r p s).answer) = batches.map .ok)
    {x : Match.Site} (hx : x.kind ≠ .reference) :
    (batches.flatten.find? fun m => m.site = x).map Match.name =
      (symbols.find? fun s => declaredSite s = x).map Symbol.qualifiedName := by
  induction symbols generalizing batches with
  | nil =>
    rw [List.map_eq_nil_iff.1 h.symm]
    rfl
  | cons s symbols ih =>
    rcases batches with _ | ⟨first, batches⟩
    · simp at h
    obtain ⟨hfirst, hrest⟩ := List.cons.inj h
    obtain ⟨declared, used, rfl, hsite, hname, hused⟩ := exists_of_matchesOf_eq_ok hfirst
    have hskip : used.find? (fun m => m.site = x) = none := by
      simp only [List.find?_eq_none, decide_eq_true_eq]
      rintro m hm rfl
      exact hx (hused m hm)
    rw [List.flatten_cons, List.cons_append]
    by_cases hs : declaredSite s = x
    · rw [List.find?_cons_of_pos (by simpa [hsite] using hs),
        List.find?_cons_of_pos (by simpa using hs)]
      exact congrArg some hname
    · rw [List.find?_cons_of_neg (by simpa [hsite] using hs),
        List.find?_cons_of_neg (by simpa using hs), List.find?_append, hskip, Option.none_or]
      exact ih hrest

/-- The symbols that a unit has found, none when it failed. -/
def found (settings : Settings) (excludedDirs : List String) (sink : Sink σ) (tree : Tree)
    (r : Request) (unit : Path) : List Symbol :=
  match (backend excludedDirs).compile tree unit with
  | .error _ => []
  | .ok p =>
    match ((searcher settings excludedDirs sink).queryUnit tree r p).answer with
    | .error _ => []
    | .ok _ => p.find r.nameTest

/-- A unit that was queried without failure has found what its project finds. -/
theorem found_of_queryUnit {unit : Path} {p : Project} {batch : List Match}
    (hp : (backend excludedDirs).compile tree unit = .ok p)
    (hbatch : ((searcher settings excludedDirs sink).queryUnit tree r p).answer = .ok batch) :
    found settings excludedDirs sink tree r unit = p.find r.nameTest := by
  rw [found, hp]
  dsimp only
  rw [hbatch]

/-- What a unit has found its project finds, and the unit did not fail. -/
theorem mem_found_iff {unit : Path} {s : Symbol} :
    s ∈ found settings excludedDirs sink tree r unit ↔
      ∃ p batch, (backend excludedDirs).compile tree unit = .ok p ∧
        ((searcher settings excludedDirs sink).queryUnit tree r p).answer = .ok batch ∧
        s ∈ p.find r.nameTest := by
  constructor
  · intro h
    rcases hp : (backend excludedDirs).compile tree unit with f | p
    · simp [found, hp] at h
    rcases hbatch : ((searcher settings excludedDirs sink).queryUnit tree r p).answer with f | batch
    · simp [found, hp, hbatch] at h
    · exact ⟨p, batch, rfl, hbatch, found_of_queryUnit hp hbatch ▸ h⟩
  · rintro ⟨p, batch, hp, hbatch, hs⟩
    rwa [found_of_queryUnit hp hbatch]

/-- A symbol that is found has a qualified name that ends in its name. -/
theorem endsIn_of_mem_found {unit : Path} {s : Symbol}
    (h : s ∈ found settings excludedDirs sink tree r unit) :
    Text.EndsIn s.qualifiedName s.name := by
  obtain ⟨p, -, hp, -, hs⟩ := mem_found_iff.1 h
  obtain ⟨m, -, hm⟩ :=
    List.mem_flatMap.1 (Project.symbols_of_compile hp ▸ List.mem_of_mem_filter hs)
  exact endsIn_of_mem_declarations hm

/-- **Which name stands at a site.**  The first match of a unit at a site that is none of
references is that of the first symbol that the unit has found there. -/
theorem find?_unitMatches (unit : Path) {x : Match.Site} (hx : x.kind ≠ .reference) :
    (((searcher settings excludedDirs sink).unitMatches tree r unit).find?
        fun m => m.site = x).map Match.name =
      ((found settings excludedDirs sink tree r unit).find?
        fun s => declaredSite s = x).map Symbol.qualifiedName := by
  have hbackend : (searcher settings excludedDirs sink).backend = backend excludedDirs := rfl
  unfold found Searcher.unitMatches Searcher.unitAnswer
  rw [hbackend]
  rcases (backend excludedDirs).compile tree unit with f | p
  · rfl
  rcases hquery : ((searcher settings excludedDirs sink).queryUnit tree r p).answer with f | batch
  · simp [bind, Except.bind, hquery, Except.toOption]
  simp only [bind, Except.bind, hquery, Except.toOption, Option.getD_some]
  rw [Searcher.answer_queryUnit] at hquery
  obtain ⟨symbols, hsymbols, hquery⟩ := Except.bind_eq_ok_iff.1 hquery
  obtain ⟨batches, hbatches, hbatch⟩ := Except.bind_eq_ok_iff.1 hquery
  obtain rfl : p.find r.nameTest = symbols := Except.ok.inj hsymbols
  rw [← Except.ok.inj hbatch]
  exact find?_flatten_batches (Except.mapM_eq_ok_iff.1 hbatches) hx

/-- The first match of some units at a site that is none of references is that of the first
symbol that they have found there. -/
theorem find?_flatMap_unitMatches (units : List Path) {x : Match.Site} (hx : x.kind ≠ .reference) :
    ((units.flatMap ((searcher settings excludedDirs sink).unitMatches tree r)).find?
        fun m => m.site = x).map Match.name =
      ((units.flatMap (found settings excludedDirs sink tree r)).find?
        fun s => declaredSite s = x).map Symbol.qualifiedName := by
  induction units with
  | nil => rfl
  | cons unit units ih =>
    rw [List.flatMap_cons, List.flatMap_cons, List.find?_append, List.find?_append,
      Option.map_or, Option.map_or, find?_unitMatches unit hx, ih]

/-- **What stands for a declaration in the results.**  Where a level has answered a search,
every symbol that was found in a unit without failure has an entry with its file, its line
and its kind.  The name of that entry is the qualified name of the first symbol that was
found at the same file, line and kind, by the order of the units and inside a unit by that of
its symbols, and it ends in that symbol's own name. -/
theorem declaration_is_represented {record after : Record Project σ} {o : Outcome}
    (h : ((searcher settings excludedDirs sink).search tree r).result record = (.ok o, after))
    (hlevel : o.strategy ≠ "text") :
    ∃ level units, (searcher settings excludedDirs sink).AnsweredBy tree r o level units ∧
      ∀ unit ∈ units, ∀ p, (backend excludedDirs).compile tree unit = .ok p →
        (∃ batch, ((searcher settings excludedDirs sink).queryUnit tree r p).answer = .ok batch) →
        ∀ s ∈ p.find r.nameTest, ∃ kept ∈ o.results, ∃ first,
          (units.flatMap (found settings excludedDirs sink tree r)).find?
            (fun other => declaredSite other = declaredSite s) = some first ∧
          kept.file = s.location.file ∧ kept.line = s.location.line ∧ kept.kind = kindOf s ∧
          kept.name = first.qualifiedName ∧ Text.EndsIn kept.name first.name := by
  obtain ⟨level, units, hanswered⟩ :=
    (Searcher.answered_of_result_search h).resolve_left hlevel
  refine ⟨level, units, hanswered, ?_⟩
  rintro unit hunit p hp ⟨batch, hbatch⟩ s hs
  have hx : (declaredSite s).kind ≠ .reference := kindOf_ne_reference s
  have hfound : s ∈ units.flatMap (found settings excludedDirs sink tree r) :=
    List.mem_flatMap.2 ⟨unit, hunit, found_of_queryUnit hp hbatch ▸ hs⟩
  -- The first symbol at the site, and the first match at it, are of one name.
  obtain ⟨first, hfirst⟩ : ∃ first, (units.flatMap (found settings excludedDirs sink tree r)).find?
      (fun other => declaredSite other = declaredSite s) = some first :=
    Option.isSome_iff_exists.1 (List.find?_isSome.2 ⟨s, hfound, by simp⟩)
  have hnames : ((units.flatMap ((searcher settings excludedDirs sink).unitMatches tree r)).find?
      fun m => m.site = declaredSite s).map Match.name = some first.qualifiedName := by
    rw [find?_flatMap_unitMatches units hx, hfirst]
    rfl
  obtain ⟨m, hm, hname⟩ := Option.map_eq_some_iff.1 hnames
  have hsite : m.site = declaredSite s := by simpa using List.find?_some hm
  obtain ⟨kept, hkept, hfind⟩ := Searcher.exists_firstReport_find? (List.mem_of_find?_eq_some hm)
  obtain rfl : m = kept := by
    rw [hsite] at hfind
    exact Option.some.inj (hm.symm.trans hfind)
  obtain ⟨hfile, hline, hkind⟩ := Match.Site.mk.inj hsite
  refine ⟨m, hanswered.results ▸ hkept, first, hfirst, hfile, hline, hkind, hname, ?_⟩
  rw [hname]
  obtain ⟨other, -, hother⟩ := List.mem_flatMap.1 (List.mem_of_find?_eq_some hfirst)
  exact endsIn_of_mem_found hother

/-- A module that declares two names in one line. -/
def chainedTree : Tree := loneModule (Text.bytesOf "Aid = Bid = NewType('Aid', int)\n".toList)

/-- A search for names in which `id` occurs. -/
def requestForId : Request := Searcher.requestFor "id" false rfl

/-- The symbols of the module: itself, `Aid` and `Bid`. -/
def chainedSymbols : List Symbol := [
  ⟨"m", "m", "module", ⟨"m.py", 1, 0⟩, [], []⟩,
  ⟨"Aid", "m.Aid", "alias", ⟨"m.py", 1, 0⟩, [], []⟩,
  ⟨"Bid", "m.Bid", "alias", ⟨"m.py", 1, 6⟩, [], []⟩]

/-- The unit is compiled, and both names of the line are among its symbols. -/
theorem compile_chained :
    ∃ p, (backend []).compile chainedTree loneUnit = .ok p ∧ p.symbols = chainedSymbols := by
  have hdeclared : (statements? (Text.bytesOf "Aid = Bid = NewType('Aid', int)\n".toList)).map
      (fun body => Module.declarations ⟨loneFile, "m", body, false⟩) = some chainedSymbols := by
    decide +kernel
  obtain ⟨body, hbody, hsymbols⟩ := Option.map_eq_some_iff.1 hdeclared
  obtain ⟨p, hp, hdeclarations⟩ := compile_loneModule hbody
  exact ⟨p, hp, hdeclarations.trans hsymbols⟩

/-- Both names are found, and the unit does not fail. -/
theorem queryUnit_chained {p : Project} (h : p.symbols = chainedSymbols) :
    p.find requestForId.nameTest = chainedSymbols.drop 1 ∧
      ((searcher {} [] Sink.collecting).queryUnit chainedTree requestForId p).answer =
        .ok [⟨"m.py", 1, "m.Aid", .type, ">>> Aid = Bid = NewType('Aid', int)"⟩,
          ⟨"m.py", 1, "m.Bid", .type, ">>> Aid = Bid = NewType('Aid', int)"⟩] := by
  have hfind : p.find requestForId.nameTest = chainedSymbols.drop 1 := by
    rw [Project.find, h]
    decide +kernel
  refine ⟨hfind, ?_⟩
  have hbackend : (searcher {} [] Sink.collecting).backend.find p requestForId.nameTest =
      .ok (p.find requestForId.nameTest) := rfl
  rw [Searcher.answer_queryUnit, hbackend, hfind, funext (matchesOf_of_declarations rfl p)]
  decide +kernel

/-- What the search for `id` comes to. -/
theorem search_chained : ∃ after,
    ((searcher {} [] Sink.collecting).search chainedTree requestForId).result ⟨[], [], []⟩ =
      (.ok ⟨requestForId, [⟨"m.py", 1, "m.Aid", .type, ">>> Aid = Bid = NewType('Aid', int)"⟩],
        "solution", []⟩, after) := by
  obtain ⟨p, hp, hsymbols⟩ := compile_chained
  have hcompile : (searcher {} [] Sink.collecting).backend.compile chainedTree loneUnit =
      .ok p := hp
  have hmatches : (searcher {} [] Sink.collecting).unitMatches chainedTree requestForId loneUnit =
      [⟨"m.py", 1, "m.Aid", .type, ">>> Aid = Bid = NewType('Aid', int)"⟩,
        ⟨"m.py", 1, "m.Bid", .type, ">>> Aid = Bid = NewType('Aid', int)"⟩] := by
    simp [Searcher.unitMatches, Searcher.unitAnswer, hcompile, bind, Except.bind,
      (queryUnit_chained hsymbols).2, Except.toOption]
  have hsilent : (searcher {} [] Sink.collecting).failureWarnings chainedTree requestForId
      loneUnit = [] := by
    simp [Searcher.failureWarnings, Searcher.unitAnswer, hcompile, bind, Except.bind,
      (queryUnit_chained hsymbols).2]
  have hcovers : (searcher {} [] Sink.collecting).backend.covers requestForId.extensions =
      .ok true := by decide +kernel
  rw [Searcher.result_search (by decide +kernel) hcovers, if_pos rfl,
    @Searcher.result_searchLevels_cons _ _ _ _ _ _ (fun _ => [loneUnit]) _ _
      (discover_loneModule _) (fun unit _ => contained unit) (fun _ _ => rfl)]
  simp only [List.flatMap_cons, List.flatMap_nil, hmatches, List.append_nil, reduceCtorEq, if_false]
  refine ⟨_, congrArg₂ Prod.mk (congrArg Except.ok ?_) rfl⟩
  simp [firstReports, Match.isFirst, Match.site, Level.name, Searcher.tierRecord, hsilent,
    Record.warnedAll, Record.notingAll]

/-- **A declaration that no result stands for by name.**  The module declares `Bid` beside
`Aid`; both are found, no unit fails, and no result has a name that ends in `Bid`. -/
theorem chained_declaration_is_lost :
    ∃ o after p,
      ((searcher {} [] Sink.collecting).search chainedTree requestForId).result ⟨[], [], []⟩ =
        (.ok o, after) ∧
      o.strategy = "solution" ∧ (backend []).compile chainedTree loneUnit = .ok p ∧
      (∃ batch, ((searcher {} [] Sink.collecting).queryUnit chainedTree requestForId p).answer =
        .ok batch) ∧
      ∃ s ∈ p.find requestForId.nameTest, s.name = "Bid" ∧
        ∀ kept ∈ o.results, ¬ Text.EndsIn kept.name s.name := by
  obtain ⟨after, hsearch⟩ := search_chained
  obtain ⟨p, hp, hsymbols⟩ := compile_chained
  obtain ⟨hfind, hanswer⟩ := queryUnit_chained hsymbols
  refine ⟨_, after, p, hsearch, rfl, hp, ⟨_, hanswer⟩,
    ⟨"Bid", "m.Bid", "alias", ⟨"m.py", 1, 6⟩, [], []⟩, ?_, rfl, ?_⟩
  · rw [hfind]
    decide
  · intro kept hkept
    obtain rfl := List.mem_singleton.1 hkept
    rintro (h | ⟨front, h⟩)
    · exact absurd h (by decide)
    · have hends : "m.Aid" = front ++ "." ++ "Bid" := h
      have hsuffix : "Bid".toList <:+ "m.Aid".toList := by
        rw [hends, String.toList_append]
        exact List.suffix_append _ _
      exact absurd hsuffix (by decide)

/-- The hypotheses of `declaration_is_represented` are satisfiable: the search for `id` is
answered by the units of the solution level, and `m.Aid` stands for both names. -/
theorem declaration_is_represented_chained :
    ∃ o after,
      ((searcher {} [] Sink.collecting).search chainedTree requestForId).result ⟨[], [], []⟩ =
        (.ok o, after) ∧
      o.strategy ≠ "text" ∧
      ∃ level units, (searcher {} [] Sink.collecting).AnsweredBy chainedTree requestForId o level
        units := by
  obtain ⟨after, hsearch⟩ := search_chained
  obtain ⟨level, units, hanswered, -⟩ := declaration_is_represented hsearch (by decide)
  exact ⟨_, after, hsearch, by decide, level, units, hanswered⟩

end Python
end DeclSearch
