/-
# Units that can be analysed

A query shows every location that it gets from a compiled unit: it reads the file again and
picks the line.  The file of a module was read and parsed when the unit was compiled, so it
can be read again, and its statements stand on its lines (`exists_readFrom_of_mem_modules`).
A reference has the position of a mention, and a symbol that a statement declares has the
position of that statement, so both can be shown.

What is left is the symbol of the module itself.  It stands on the first line of every file
with at least one byte, and that line is missing if the bytes are those of a byte-order mark
and no more (`Module.ReadFrom.shown_symbol_iff`).  These modules are all that can keep a unit
from being analysed (`unit_analysed_iff`), and one of them is enough (`marked_unit_fails`).
-/

import DeclSearch.Proofs.Paths
import DeclSearch.Proofs.Representatives
import DeclSearch.Proofs.SourceLines

namespace DeclSearch
namespace Python

open Text (Bytes)
open Workspace (Path Tree linesOfBytes)

variable {excludedDirs : List String} {tree : Tree} {unit : Path} {p : Project} {m : Module}
  {content : Bytes}

/-- Sorting spots and leaving out those that are repeated adds none. -/
theorem mem_of_mem_distinctSpots {spot : Spot} {spots : List Spot}
    (h : spot ∈ distinctSpots spots) : spot ∈ spots := by
  fun_induction distinctSpots spots with
  | case1 a rest ih => exact List.mem_cons_of_mem _ (ih h)
  | case2 a b rest _ ih =>
    rcases List.mem_cons.1 h with rfl | hrest
    · exact List.mem_cons_self
    · exact List.mem_cons_of_mem _ (ih hrest)
  | case3 => exact h

namespace Module

/-- A reference to a symbol stands in the module's file, on the line of one of the positions
in its statements. -/
theorem exists_of_mem_references {s : Symbol} {l : Location} (h : l ∈ m.references s) :
    l.file = m.path.render ∧ ∃ start ∈ Stmt.positionsOf m.body, (start.line : Int) = l.line := by
  obtain ⟨spot, hspot, rfl⟩ := List.mem_map.1 (List.mem_filter.1 h).1
  obtain ⟨mention, hmention, rfl⟩ :=
    List.mem_map.1 (List.mem_mergeSort.1 (mem_of_mem_distinctSpots hspot))
  have hline : mention.line ∈ (mentionedInAll m.body).map Mention.line :=
    List.mem_map_of_mem (List.mem_filter.1 hmention).1
  obtain ⟨start, hstart, hsame⟩ := List.mem_map.1 (map_line_mentionedInAll m.body hline)
  exact ⟨rfl, start, hstart, congrArg Int.ofNat hsame⟩

/-- A module in a tree, with the content of its file.  The file is read in the same way by the
text of its path, and the statements stand on its lines. -/
structure ReadFrom (tree : Tree) (m : Module) (content : Bytes) : Prop where
  read : tree.read m.path = .ok content
  lines : tree.readLines (Path.ofString m.path.render) = .ok (linesOfBytes content)
  isEmpty : m.isEmpty = content.isEmpty
  within : ∀ s ∈ m.body, s.Within (linesOfBytes content).length

/-- A location in the file of a module is shown if its line is one of the file's. -/
theorem ReadFrom.shown_iff (h : m.ReadFrom tree content) {l : Location}
    (hfile : l.file = m.path.render) :
    l.Shown tree ↔ 1 ≤ l.line ∧ l.line ≤ (linesOfBytes content).length := by
  rw [Location.Shown, hfile, h.lines]
  simp

/-- A location on the line of a position in a module that is read can be shown. -/
theorem ReadFrom.shown_of_mem_positionsOf (h : m.ReadFrom tree content) {l : Location}
    (hfile : l.file = m.path.render) {start : Position} (hstart : start ∈ Stmt.positionsOf m.body)
    (hline : (start.line : Int) = l.line) : l.Shown tree := by
  have hwithin : start.Within (linesOfBytes content).length :=
    Stmt.forall_mem_positionsOf.2 h.within start hstart
  rw [h.shown_iff hfile, ← hline]
  exact ⟨Int.ofNat_le.2 hwithin.1, Int.ofNat_le.2 hwithin.2⟩

/-- Every reference in a module that is read can be shown. -/
theorem ReadFrom.shown_of_mem_references (h : m.ReadFrom tree content) {s : Symbol} {l : Location}
    (hl : l ∈ m.references s) : l.Shown tree := by
  obtain ⟨hfile, start, hstart, hline⟩ := exists_of_mem_references hl
  exact h.shown_of_mem_positionsOf hfile hstart hline

/-- **The symbol of a module** that has bytes can be shown, unless they are a byte-order mark. -/
theorem ReadFrom.shown_symbol_iff (h : m.ReadFrom tree content) (hne : m.isEmpty = false) :
    m.symbol.location.Shown tree ↔ content ≠ Text.Utf8.mark := by
  have hcontent : content ≠ [] := by
    rintro rfl
    exact absurd (h.isEmpty.symm.trans hne) (by decide)
  rw [h.shown_iff rfl, ← Decidable.not_iff_not, not_not]
  calc ¬ ((1 : Int) ≤ 1 ∧ (1 : Int) ≤ (linesOfBytes content).length) ↔
        linesOfBytes content = [] := by
        rw [← List.length_eq_zero_iff]
        omega
    _ ↔ content = Text.Utf8.mark := by
        rw [linesOfBytes_eq_nil_iff]
        exact or_iff_right hcontent

/-- What a module declares can be shown, apart from the symbol of a module without lines. -/
theorem ReadFrom.shown_of_mem_declarations (h : m.ReadFrom tree content) {s : Symbol}
    (hs : s ∈ m.declarations) :
    s.location.Shown tree ∨ s = m.symbol ∧ content = Text.Utf8.mark := by
  rw [declarations, List.mem_append] at hs
  rcases hs with hs | hs
  · split at hs
    · exact absurd hs List.not_mem_nil
    · next hne =>
      obtain rfl := List.mem_singleton.1 hs
      refine (em (content = Text.Utf8.mark)).elim (fun hmark => .inr ⟨rfl, hmark⟩) fun hmark => ?_
      exact .inl ((h.shown_symbol_iff (by simpa using hne)).2 hmark)
  · obtain ⟨site, name, category, start, bases, decorators, hfile, hstart, rfl⟩ :=
      exists_of_mem_declaredIn _ _ s hs
    exact .inl (h.shown_of_mem_positionsOf hfile hstart rfl)

end Module

/-- **The modules of a unit can be read again**, by the text of their paths. -/
theorem exists_readFrom_of_mem_modules (hunit : unit.Proper)
    (h : Project.compile excludedDirs tree unit = .ok p) (hm : m ∈ p.modules) :
    ∃ content, m.ReadFrom tree content := by
  obtain ⟨hwalk, content, hread, hbody, -, hempty⟩ := (Project.mem_modules_iff h).1 hm
  refine ⟨content, hread, ?_, hempty, within_of_statements? hbody⟩
  rw [Path.ofString_render (Tree.proper_of_mem_walk hunit.parent m.path hwalk),
    Tree.readLines, hread]
  dsimp only
  rw [contains_zero_of_statements? hbody, if_neg Bool.false_ne_true]

/-- Every reference in a unit can be shown. -/
theorem shown_of_mem_references (hunit : unit.Proper)
    (h : Project.compile excludedDirs tree unit = .ok p) {s : Symbol} {l : Location}
    (hl : l ∈ p.references s) : l.Shown tree := by
  obtain ⟨m, hm, hl⟩ := List.mem_flatMap.1 hl
  obtain ⟨content, hfrom⟩ := exists_readFrom_of_mem_modules hunit h hm
  exact hfrom.shown_of_mem_references hl

/-- Every symbol of a unit can be shown, apart from those of modules without lines. -/
theorem shown_of_mem_symbols (hunit : unit.Proper)
    (h : Project.compile excludedDirs tree unit = .ok p) {s : Symbol} (hs : s ∈ p.symbols) :
    s.location.Shown tree ∨
      ∃ m ∈ p.modules, s = m.symbol ∧ tree.read m.path = .ok Text.Utf8.mark := by
  obtain ⟨m, hm, hs⟩ := List.mem_flatMap.1 (Project.symbols_of_compile h ▸ hs)
  obtain ⟨content, hfrom⟩ := exists_readFrom_of_mem_modules hunit h hm
  refine (hfrom.shown_of_mem_declarations hs).imp_right ?_
  rintro ⟨rfl, rfl⟩
  exact ⟨m, hm, rfl, hfrom.read⟩

/-- The symbol of a module without lines is one of the unit's, and it cannot be shown. -/
theorem not_shown_symbol (hunit : unit.Proper)
    (h : Project.compile excludedDirs tree unit = .ok p) (hm : m ∈ p.modules)
    (hmark : tree.read m.path = .ok Text.Utf8.mark) :
    m.symbol ∈ p.symbols ∧ ¬ m.symbol.location.Shown tree := by
  obtain ⟨content, hfrom⟩ := exists_readFrom_of_mem_modules hunit h hm
  obtain rfl : content = Text.Utf8.mark := Except.ok.inj (hfrom.read.symm.trans hmark)
  have hne : m.isEmpty = false := hfrom.isEmpty
  refine ⟨?_, fun hshown => (hfrom.shown_symbol_iff hne).1 hshown rfl⟩
  rw [Project.symbols_of_compile h]
  exact List.mem_flatMap.2 ⟨m, hm, by simp [Module.declarations, hne]⟩

variable {σ : Type} {settings : Settings} {sink : Sink σ} {r : Request}

/-- A symbol of a project is answerable if its own location can be shown, and, where references are
asked for, each of these. -/
theorem answerable_iff {s : Symbol} :
    (searcher settings excludedDirs sink).Answerable tree r p s ↔
      s.location.Shown tree ∧ (r.references = true → ∀ l ∈ p.references s, l.Shown tree) := by
  simp [Searcher.Answerable, searcher, backend]

/-- A unit that was compiled is analysed without error if its query succeeds. -/
theorem analysed_iff_queryUnit (h : (backend excludedDirs).compile tree unit = .ok p)
    (record : Record Project σ) :
    (∃ batch after, ((searcher settings excludedDirs sink).runUnit tree r unit).result record =
        (.ok (.ok batch), after)) ↔
      ∃ batch, ((searcher settings excludedDirs sink).queryUnit tree r p).answer = .ok batch := by
  have hcompile : (searcher settings excludedDirs sink).backend.compile tree unit = .ok p := h
  rw [Searcher.result_runUnit, Searcher.unitResult_of_contained (contained unit),
    Searcher.unitAnswer, hcompile]
  simp only [bind, Except.bind]
  rcases ((searcher settings excludedDirs sink).queryUnit tree r p).answer with f | batch
  · simp [Except.mapError]
  · simp [Except.mapError]

/-- **When a unit is analysed without error.**  In a unit that was compiled every reference can
be shown, and every symbol apart from those of the modules whose file holds a byte-order mark
and nothing else.  Whatever is asked for, the run of the unit returns no error exactly when the
query accepts the name of none of these modules. -/
theorem unit_analysed_iff (hunit : unit.Proper)
    (h : (backend excludedDirs).compile tree unit = .ok p) :
    (∀ s, ∀ l ∈ p.references s, l.Shown tree) ∧
      (∀ s ∈ p.symbols, s.location.Shown tree ∨
        ∃ m ∈ p.modules, s = m.symbol ∧ tree.read m.path = .ok Text.Utf8.mark) ∧
      ∀ (settings : Settings) (sink : Sink σ) (r : Request) (record : Record Project σ),
        (∃ batch after,
          ((searcher settings excludedDirs sink).runUnit tree r unit).result record =
            (.ok (.ok batch), after)) ↔
          ∀ m ∈ p.modules, tree.read m.path = .ok Text.Utf8.mark →
            r.nameTest.accepts m.symbol.name = false := by
  refine ⟨fun s l => shown_of_mem_references hunit h, fun s => shown_of_mem_symbols hunit h,
    fun settings sink r record => ?_⟩
  rw [analysed_iff_queryUnit h, Searcher.queryUnit_isOk_iff]
  constructor
  · rintro ⟨symbols, hfind, hanswerable⟩ m hm hmark
    obtain rfl : p.find r.nameTest = symbols := Except.ok.inj hfind
    obtain ⟨hsymbol, hhidden⟩ := not_shown_symbol hunit h hm hmark
    by_contra haccepts
    have hfound : m.symbol ∈ p.find r.nameTest :=
      List.mem_filter.2 ⟨hsymbol, by simpa using haccepts⟩
    exact hhidden (answerable_iff.1 (hanswerable m.symbol hfound)).1
  · intro hmarked
    refine ⟨p.find r.nameTest, rfl, fun s hs => answerable_iff.2 ⟨?_, fun _ l =>
      shown_of_mem_references hunit h⟩⟩
    obtain ⟨hsymbol, haccepts⟩ := List.mem_filter.1 hs
    refine (shown_of_mem_symbols hunit h hsymbol).resolve_right ?_
    rintro ⟨m, hm, rfl, hmark⟩
    exact absurd (hmarked m hm hmark) (by simpa using haccepts)

/-- A module whose file holds a byte-order mark and nothing else. -/
def markedTree : Tree := loneModule Text.Utf8.mark

/-- A search for names in which `m` occurs. -/
def requestForM : Request := Searcher.requestFor "m" false rfl

/-- **A unit that is compiled and cannot be analysed.**  The file of its only module has no
line, and the symbol of the module stands on the first one. -/
theorem marked_unit_fails :
    loneUnit.Proper ∧ ∃ p after,
      (backend []).compile markedTree loneUnit = .ok p ∧
      ((searcher {} [] Sink.collecting).runUnit markedTree requestForM loneUnit).result
          ⟨[], [], []⟩ =
        (.ok (.error "target_index 0 out of range for 0 lines"), after) := by
  obtain ⟨body, hbody, hempty⟩ : ∃ body, statements? Text.Utf8.mark = some body ∧ body = [] := by
    have hnone : (statements? Text.Utf8.mark).map List.isEmpty = some true := by decide +kernel
    obtain ⟨body, hbody, hempty⟩ := Option.map_eq_some_iff.1 hnone
    exact ⟨body, hbody, List.isEmpty_iff.1 hempty⟩
  subst hempty
  obtain ⟨p, hp, hsymbols⟩ := compile_loneModule hbody
  have hcompile : (searcher {} [] Sink.collecting).backend.compile markedTree loneUnit = .ok p := hp
  have hfind : (searcher {} [] Sink.collecting).backend.find p requestForM.nameTest =
      .ok [⟨"m", "m", "module", ⟨"m.py", 1, 0⟩, [], []⟩] := by
    refine congrArg Except.ok ?_
    rw [Project.find, hsymbols]
    decide +kernel
  have hanswer : ((searcher {} [] Sink.collecting).unitAnswer markedTree requestForM
      loneUnit).mapError Failure.shown = .error "target_index 0 out of range for 0 lines" := by
    rw [Searcher.unitAnswer, hcompile]
    simp only [bind, Except.bind]
    rw [Searcher.answer_queryUnit, hfind, funext (matchesOf_of_declarations rfl p)]
    decide +kernel
  have hrun := Searcher.result_runUnit (searcher {} [] Sink.collecting) markedTree requestForM
    loneUnit ⟨[], [], []⟩
  rw [Searcher.unitResult_of_contained (contained loneUnit), hanswer] at hrun
  exact ⟨by decide +kernel, p, _, hp, hrun⟩

/-- The hypotheses of `unit_analysed_iff` are satisfiable: a unit whose only module declares
two names in one line is analysed without error. -/
theorem unit_analysed_iff_chained :
    loneUnit.Proper ∧ ∃ p,
      (backend []).compile chainedTree loneUnit = .ok p ∧
      ∀ (settings : Settings) (sink : Sink (List String)) (r : Request)
          (record : Record Project (List String)),
        ∃ batch after, ((searcher settings [] sink).runUnit chainedTree r loneUnit).result record =
          (.ok (.ok batch), after) := by
  have hunit : loneUnit.Proper := by decide +kernel
  obtain ⟨p, hp, -⟩ := compile_chained
  refine ⟨hunit, p, hp, fun settings sink r record => ?_⟩
  refine ((unit_analysed_iff hunit hp).2.2 settings sink r record).2 fun m hm hmark => ?_
  -- The module in the unit is no file with nothing but a mark.
  obtain ⟨hwalk, -⟩ := (Project.mem_modules_iff hp).1 hm
  have hparent : loneUnit.parent = .here := rfl
  rw [hparent, chainedTree, walk_loneModule, List.mem_append] at hwalk
  rcases hwalk with hwalk | hwalk
  · obtain ⟨-, hwalk⟩ := List.mem_ite_nil_right.1 hwalk
    rw [List.mem_singleton.1 hwalk] at hmark
    exact absurd hmark (by decide +kernel)
  · obtain ⟨-, hwalk⟩ := List.mem_ite_nil_right.1 hwalk
    rw [List.mem_singleton.1 hwalk] at hmark
    exact absurd hmark (by decide +kernel)

end Python
end DeclSearch
