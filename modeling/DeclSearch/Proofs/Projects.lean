/-
# What compiling a unit gives

Where a unit can be compiled its modules are those source files below its folder that can be
read and parsed (`mem_modules_iff`), and its symbols are what these declare
(`symbols_of_compile`).  Compiling is opened here once (`compile_eq_ok_iff`), and nowhere else.

Whatever goes wrong in a unit has a wording, and a project can always be let go, so the failure
of a unit stays inside its run (`contained`).
-/

import DeclSearch.Proofs.Folders
import DeclSearch.Proofs.Units
import DeclSearch.Python.Project
import Mathlib.Data.List.Basic

namespace DeclSearch
namespace Python
namespace Project

open Workspace (Path Tree Quest)

variable {excludedDirs : List String} {tree : Tree} {unit : Path} {p : Project}

/-- A walk fails for a path that cannot be asked for, and for nothing else. -/
theorem ofAccess_walkFiles (tree : Tree) (root : Path) (q : Quest) :
    Failure.ofAccess (tree.walkFiles root q) =
      (do Failure.ofAccess root.checkNul; return tree.walk root q) := by
  unfold Tree.walkFiles
  rcases root.checkNul with e | _ <;> rfl

/-- **When a unit is compiled, and to what.**  Its descriptor is well formed, its folder can
be asked for, and every source file below the folder is parsed or skipped. -/
theorem compile_eq_ok_iff :
    compile excludedDirs tree unit = .ok p ↔
      Descriptor.check tree unit = .ok () ∧ Failure.ofAccess unit.parent.checkNul = .ok () ∧
      ∃ parsed : List (Path × Option Module),
        (tree.walk unit.parent (Quest.of [".py"] excludedDirs)).map
            (fun file => do return (file, ← parse? tree unit.parent file)) =
          parsed.map .ok ∧
        p = {
          unit
          root := unit.parent
          modules := parsed.filterMap Prod.snd
          symbols := (parsed.filterMap Prod.snd).flatMap Module.declarations
          skipped := (parsed.filter fun entry => entry.2.isNone).map Prod.fst } := by
  unfold compile
  simp only [ofAccess_walkFiles, Except.bind_eq_ok_iff, Except.mapM_eq_ok_iff, pure, Except.pure,
    Except.ok.injEq]
  constructor
  · rintro ⟨⟨⟩, hcheck, files, ⟨⟨⟩, hnul, rfl⟩, parsed, hparsed, hp⟩
    exact ⟨hcheck, hnul, parsed, hparsed, hp.symm⟩
  · rintro ⟨hcheck, hnul, parsed, hparsed, hp⟩
    exact ⟨(), hcheck, _, ⟨(), hnul, rfl⟩, parsed, hparsed, hp.symm⟩

/-- The symbols of a project are those that its modules declare. -/
theorem symbols_of_compile (h : compile excludedDirs tree unit = .ok p) :
    p.symbols = p.modules.flatMap Module.declarations := by
  obtain ⟨-, -, parsed, -, rfl⟩ := compile_eq_ok_iff.1 h
  rfl

/-- A file that is parsed is a module with the statements of its content. -/
theorem parse?_eq_ok_some_iff {root file : Path} {m : Module} :
    parse? tree root file = .ok (some m) ↔
      m.path = file ∧ ∃ content, tree.read file = .ok content ∧ statements? content = some m.body ∧
        Module.nameOf root file = .ok m.name ∧ m.isEmpty = content.isEmpty := by
  unfold parse?
  rcases tree.read file with e | content
  · simp
  dsimp only
  rcases hbody : parse content with (_ | _) | body
  · simp [statements?, hbody, Except.toOption]
  · simp [statements?, hbody, Except.toOption]
  obtain ⟨path, name, stmts, isEmpty⟩ := m
  simp only [Except.bind_eq_ok_iff, pure, Except.pure, Except.ok.injEq, Option.some.injEq,
    Module.mk.injEq, exists_eq_left', statements?, hbody, Except.toOption]
  constructor
  · rintro ⟨_, hname, rfl, rfl, rfl, rfl⟩
    exact ⟨rfl, rfl, hname, rfl⟩
  · rintro ⟨rfl, rfl, hname, rfl⟩
    exact ⟨name, hname, rfl, rfl, rfl, rfl⟩

/-- **The modules of a project** are those source files below the unit's folder that can be read
and parsed, each with the name that it has from there. -/
theorem mem_modules_iff (h : compile excludedDirs tree unit = .ok p) {m : Module} :
    m ∈ p.modules ↔
      m.path ∈ tree.walk unit.parent (Quest.of [".py"] excludedDirs) ∧
        ∃ content, tree.read m.path = .ok content ∧ statements? content = some m.body ∧
          Module.nameOf unit.parent m.path = .ok m.name ∧ m.isEmpty = content.isEmpty := by
  obtain ⟨-, -, parsed, hparsed, rfl⟩ := compile_eq_ok_iff.1 h
  have hmem (file : Path) (found : Option Module) : (file, found) ∈ parsed ↔
      file ∈ tree.walk unit.parent (Quest.of [".py"] excludedDirs) ∧
        parse? tree unit.parent file = .ok found := by
    have hok : (file, found) ∈ parsed ↔ (Except.ok (file, found) : Except Failure _) ∈
        parsed.map .ok := by simp
    rw [hok, ← hparsed, List.mem_map]
    simp only [Except.bind_eq_ok_iff, pure, Except.pure, Except.ok.injEq, Prod.mk.injEq]
    constructor
    · rintro ⟨_, hwalk, _, hfound, rfl, rfl⟩
      exact ⟨hwalk, hfound⟩
    · rintro ⟨hwalk, hfound⟩
      exact ⟨file, hwalk, found, hfound, rfl, rfl⟩
  simp only [List.mem_filterMap, Prod.exists, exists_eq_right, hmem, parse?_eq_ok_some_iff]
  constructor
  · rintro ⟨file, hwalk, rfl, hcontent⟩
    exact ⟨hwalk, hcontent⟩
  · rintro ⟨hwalk, hcontent⟩
    exact ⟨m.path, hwalk, rfl, hcontent⟩

end Project

open Workspace (Path Tree Quest areRegular_cons arrange)

variable {σ : Type} {settings : Settings} {excludedDirs : List String} {sink : Sink σ} {tree : Tree}
  {r : Request}

/-- Whether a source file is skipped: it cannot be read or parsed. -/
def isMalformed (tree : Tree) (file : Path) : Bool :=
  match tree.read file with
  | .error _ => true
  | .ok content => (statements? content).isNone

/-- A file that is parsed without failure is a module at its path, or is skipped as malformed. -/
theorem isMalformed_of_parse? {tree : Tree} {root file : Path} {found : Option Module}
    (h : Project.parse? tree root file = .ok found) :
    isMalformed tree file = found.isNone ∧ ∀ m ∈ found, m.path = file := by
  rcases found with _ | m
  · refine ⟨?_, by simp⟩
    unfold Project.parse? at h
    split at h
    · next hread => simp [isMalformed, hread]
    · next content hread =>
      split at h
      · next hbody => simp [isMalformed, hread, statements?, hbody, Except.toOption]
      · exact nomatch h
      · obtain ⟨name, -, hname⟩ := Except.bind_eq_ok_iff.1 h
        exact nomatch hname
  · obtain ⟨hpath, content, hread, hbody, -⟩ := Project.parse?_eq_ok_some_iff.1 h
    simp [isMalformed, hread, hbody, hpath]

/-- **A unit skips the malformed files and no others.** Compiling goes through the files of the walk
one by one, and each of them is kept with its module or without one. -/
theorem skipped_of_compile {excludedDirs : List String} {tree : Tree} {unit : Path} {p : Project}
    (h : Project.compile excludedDirs tree unit = .ok p) :
    let sources := tree.walk unit.parent (Quest.of [".py"] excludedDirs)
    p.skipped = sources.filter (isMalformed tree) ∧
      p.modules.map Module.path = sources.filter fun file => !isMalformed tree file := by
  obtain ⟨-, -, parsed, hparsed, rfl⟩ := Project.compile_eq_ok_iff.1 h
  clear h
  dsimp only
  generalize tree.walk unit.parent (Quest.of [".py"] excludedDirs) = sources at hparsed ⊢
  induction sources generalizing parsed with
  | nil => simp [List.map_eq_nil_iff.1 hparsed.symm]
  | cons file sources ih =>
    rcases parsed with _ | ⟨⟨other, found⟩, parsed⟩
    · exact nomatch hparsed
    obtain ⟨hfile, hrest⟩ := List.cons.inj hparsed
    obtain ⟨found', hparse, hpair⟩ := Except.bind_eq_ok_iff.1 hfile
    obtain ⟨rfl, rfl⟩ : file = other ∧ found' = found := by simpa [pure, Except.pure] using hpair
    obtain ⟨hmalformed, hpath⟩ := isMalformed_of_parse? hparse
    obtain ⟨hskipped, hmodules⟩ := ih parsed hrest
    rcases found' with _ | m
    · simp [hmalformed, hskipped, hmodules]
    · simp [hmalformed, hskipped, hmodules, hpath]

/-- The name of a file below a folder as a module there. -/
theorem Module.nameOf_descend (folder : Path) (folders : List String) (last : String) :
    Module.nameOf folder (folder.descend (folders ++ [last])) =
      .ok (Module.dottedName folder (folders ++ [(Path.splitSuffix last).1])) := by
  rw [nameOf, Path.below?_descend]
  simp

/-- A file below a folder has a name as a module there. -/
theorem Module.exists_nameOf_eq_ok {folder file : Path} (h : folder.Above file) :
    ∃ name, Module.nameOf folder file = .ok name := by
  obtain ⟨names, rfl⟩ := Path.atOrAbove_iff.1 h.1
  rcases List.eq_nil_or_concat names with rfl | ⟨folders, last, rfl⟩
  · exact absurd (Path.descend_nil folder).symm h.2
  · rw [List.concat_eq_append]
    exact ⟨_, nameOf_descend folder folders last⟩

/-- The failure of a parser that breaks down has a wording. -/
theorem worded_brokenParser {α : Type} :
    Except.OnlyFails Failure.Worded (.error .brokenParser : Except Failure α) := by
  rintro _ ⟨⟩
  exact ⟨_, rfl⟩

/-- Checking a descriptor fails in words. -/
theorem worded_check (unit : Path) :
    Except.OnlyFails Failure.Worded (Descriptor.check tree unit) := by
  have hcontent (content : Text.Bytes) (format : Descriptor.Format) :
      Except.OnlyFails Failure.Worded (Descriptor.contentFault? unit content format) := by
    unfold Descriptor.contentFault?
    repeat' split
    all_goals first | exact .ok _ | exact worded_brokenParser
  unfold Descriptor.check Descriptor.fault?
  refine .bind ?_ fun found _ => ?_
  · repeat' split
    all_goals first | exact .ok _ | exact hcontent _ _
  · split
    · rintro _ ⟨⟩
      exact ⟨_, rfl⟩
    · exact .ok _

/-- Compiling a unit fails in words. -/
theorem worded_compile (unit : Path) :
    Except.OnlyFails Failure.Worded (Project.compile excludedDirs tree unit) := by
  have haccess {α : Type} (x : Except Workspace.AccessError α) :
      Except.OnlyFails Failure.Worded (Failure.ofAccess x) := by
    rcases x with e | a <;> rintro _ ⟨⟩
    exact ⟨_, rfl⟩
  have hname (root file : Path) : Except.OnlyFails Failure.Worded (Module.nameOf root file) := by
    unfold Module.nameOf
    repeat' split
    all_goals rintro _ ⟨⟩
    all_goals exact ⟨_, rfl⟩
  have hparse (root file : Path) :
      Except.OnlyFails Failure.Worded (Project.parse? tree root file) := by
    unfold Project.parse?
    repeat' split
    · exact .ok _
    · exact .ok _
    · exact worded_brokenParser
    · exact (hname root file).bind fun _ _ => .ok _
  unfold Project.compile
  exact .bind (worded_check unit) fun _ _ => .bind (haccess _) fun _ _ =>
    .bind (.mapM fun file _ => .bind (hparse _ file) fun _ _ => .ok _) fun _ _ => .ok _

/-- The searches over projects. -/
def searcher (settings : Settings) (excludedDirs : List String) (sink : Sink σ) :
    Searcher Project Symbol σ :=
  ⟨settings, backend excludedDirs, sink⟩

/-- The units of a level are descriptors that a walk has found. -/
theorem eq_of_discover {root : Path} {level : Level} {units : List Path}
    (h : (backend excludedDirs).discover tree root level = .ok units) :
    units = (profile excludedDirs).discover tree root level := by
  unfold backend at h
  dsimp only at h
  split at h
  · obtain ⟨-, -, h⟩ := Except.bind_eq_ok_iff.1 h
    exact (Except.ok.inj h).symm
  · exact (Except.ok.inj h).symm

/-- A unit that is discovered was found on the walk for descriptors. -/
theorem mem_walk_of_discover {root : Path} {level : Level} {units : List Path}
    (h : (backend excludedDirs).discover tree root level = .ok units) {unit : Path}
    (hunit : unit ∈ units) :
    unit ∈ tree.walk root (Quest.of ((profile excludedDirs).descriptors level)
      (profile excludedDirs).excludedDirs) := by
  rw [eq_of_discover h] at hunit
  exact List.mem_of_mem_filter hunit

/-- Querying a project fails in words. -/
theorem worded_queryUnit (p : Project) :
    Except.OnlyFails Failure.Worded
      ((searcher settings excludedDirs sink).queryUnit tree r p).answer := by
  rw [Searcher.answer_queryUnit]
  refine .bind (.ok _) fun symbols _ => .bind (.mapM fun s _ => ?_) fun _ _ => .ok _
  rw [Searcher.answer_matchesOf]
  refine .bind (.ok _) fun kind _ => .bind (.ok _) fun declared _ =>
    .bind (.mapM fun l _ => Searcher.worded_matchAt tree _ _ l) fun _ _ => ?_
  split
  · exact .bind (.ok _) fun used _ =>
      .bind (.mapM fun l _ => Searcher.worded_matchAt tree _ _ l) fun _ _ => .ok _
  · exact .ok _

/-- **The failure of a project's unit stays inside its run.** -/
theorem contained (unit : Path) : (searcher settings excludedDirs sink).Contained tree r unit where
  released p _ := ⟨p.release, rfl⟩
  worded := .bind (worded_compile unit) fun p _ => worded_queryUnit p

/-- The path of a descriptor. -/
def loneUnit : Path := ⟨.relative, ["pyproject.toml"]⟩

/-- A folder with a source file and the descriptor of a unit. -/
def loneSource (name : String) (content : Text.Bytes)
    (h : Workspace.isEntryName name ∧ name ≠ "pyproject.toml") : Tree where
  top := [(name, .file content), ("pyproject.toml", .file [])]
  regular := areRegular_cons.2 ⟨h.1, by simpa using h.2.symm, rfl,
    areRegular_cons.2 ⟨by decide +kernel, by simp, rfl, rfl⟩⟩

section

variable {name : String} {content : Text.Bytes}
  {h : Workspace.isEntryName name ∧ name ≠ "pyproject.toml"}

/-- What a walk finds there: the file and the descriptor, in this order. -/
theorem walk_loneSource (hname : name ≤ "pyproject.toml") (q : Quest) :
    (loneSource name content h).walk .here q =
      (if q.wants name then [⟨.relative, [name]⟩] else []) ++
        if q.wants "pyproject.toml" then [loneUnit] else [] := by
  have hlist : (loneSource name content h).list .here =
      .ok ([], (loneSource name content h).top) := rfl
  have hsorted : ((loneSource name content h).branches q (Tree.walkLimit .here) .here
      (loneSource name content h).top).Pairwise fun a b => decide (a.name ≤ b.name) := by
    simpa [loneSource, Tree.branches, Tree.branch] using hname
  rw [Tree.walk, hlist]
  dsimp only
  rw [arrange, List.mergeSort_of_pairwise hsorted]
  simp [loneSource, Tree.branches, Tree.branch, Path.child, Path.here, loneUnit]

/-- The descriptor is valid. -/
theorem check_loneSource (hunit : (loneSource name content h).read loneUnit = .ok []) :
    Descriptor.check (loneSource name content h) loneUnit = .ok () := by
  have hformat : Descriptor.Format.ofSuffix? loneUnit.suffix = some .toml := by decide +kernel
  have hfault : Descriptor.contentFault? loneUnit [] .toml = .ok none := by decide +kernel
  simp [Descriptor.check, Descriptor.fault?, hformat, hunit, hfault, bind, Except.bind, pure,
    Except.pure]

/-- What a folder with one source file is compiled to. -/
theorem compile_loneSource {moduleName : String} {body : List Stmt}
    (hsorted : name ≤ "pyproject.toml")
    (hwants : (Quest.of [".py"] (profile []).excludedDirs).wants name = true)
    (hread : (loneSource name content h).read ⟨.relative, [name]⟩ = .ok content)
    (hunit : (loneSource name content h).read loneUnit = .ok [])
    (hname : Module.nameOf .here ⟨.relative, [name]⟩ = .ok moduleName)
    (hbody : statements? content = some body) :
    ∃ p, (backend []).compile (loneSource name content h) loneUnit = .ok p ∧
      p.modules = [⟨⟨.relative, [name]⟩, moduleName, body, content.isEmpty⟩] := by
  have hparse : Project.parse? (loneSource name content h) .here ⟨.relative, [name]⟩ =
      .ok (some ⟨⟨.relative, [name]⟩, moduleName, body, content.isEmpty⟩) :=
    Project.parse?_eq_ok_some_iff.2 ⟨rfl, content, hread, hbody, hname, rfl⟩
  have hother : (Quest.of [".py"] (profile []).excludedDirs).wants "pyproject.toml" = false := by
    decide +kernel
  have hparent : loneUnit.parent = .here := rfl
  refine ⟨_, Project.compile_eq_ok_iff.2 ⟨check_loneSource hunit, rfl,
    [(⟨.relative, [name]⟩, some _)], ?_, rfl⟩, rfl⟩
  rw [hparent, walk_loneSource hsorted, hwants, hother]
  simp [hparse, bind, Except.bind, pure, Except.pure]

end

/-- A folder with a module `m.py` and the descriptor of a unit. -/
def loneModule (content : Text.Bytes) : Tree := loneSource "m.py" content (by decide +kernel)

/-- The path of the module. -/
def loneFile : Path := ⟨.relative, ["m.py"]⟩

/-- What a walk finds there: the module and the descriptor, in this order. -/
theorem walk_loneModule (content : Text.Bytes) (q : Quest) :
    (loneModule content).walk .here q =
      (if q.wants "m.py" then [loneFile] else []) ++
        if q.wants "pyproject.toml" then [loneUnit] else [] :=
  walk_loneSource (by decide +kernel) q

/-- The descriptor of the unit is valid. -/
theorem check_loneModule (content : Text.Bytes) :
    Descriptor.check (loneModule content) loneUnit = .ok () :=
  check_loneSource rfl

/-- The unit is discovered. -/
theorem discover_loneModule (content : Text.Bytes) :
    (backend []).discover (loneModule content) .here .solution = .ok [loneUnit] := by
  unfold backend
  simp only [Profile.discover, walk_loneModule]
  decide +kernel

/-- The unit is compiled, with the one module. -/
theorem exists_compile_loneModule {content : Text.Bytes} {body : List Stmt}
    (hbody : statements? content = some body) :
    ∃ p, (backend []).compile (loneModule content) loneUnit = .ok p ∧
      p.modules = [⟨loneFile, "m", body, content.isEmpty⟩] :=
  compile_loneSource (by decide +kernel) (by decide +kernel) rfl rfl (by decide +kernel) hbody

/-- The unit is compiled, with the symbols of its one module. -/
theorem compile_loneModule {content : Text.Bytes} {body : List Stmt}
    (hbody : statements? content = some body) :
    ∃ p, (backend []).compile (loneModule content) loneUnit = .ok p ∧
      p.symbols = Module.declarations ⟨loneFile, "m", body, content.isEmpty⟩ := by
  obtain ⟨p, hp, hmodules⟩ := exists_compile_loneModule hbody
  exact ⟨p, hp, by simp [Project.symbols_of_compile hp, hmodules]⟩

/-- Whatever the unit is compiled to has the one module. -/
theorem mem_modules_loneModule {content : Text.Bytes} {body : List Stmt} {p : Project}
    (hbody : statements? content = some body) (hempty : content.isEmpty = false)
    (hp : (backend []).compile (loneModule content) loneUnit = .ok p) :
    ⟨loneFile, "m", body, false⟩ ∈ p.modules := by
  obtain ⟨other, hother, hmodules⟩ := exists_compile_loneModule hbody
  obtain rfl := Except.ok.inj (hp.symm.trans hother)
  simp [hmodules, hempty]

end Python
end DeclSearch
