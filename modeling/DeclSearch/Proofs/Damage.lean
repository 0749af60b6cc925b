/-
# What a damaged source file does to a unit

A unit with a valid descriptor is compiled unless the parser breaks down over one of its source
files (`Project.compile_eq`): each source file below its folder is a module or is skipped, by
whether it can be read and parsed, and the symbols are those of the modules, one after another.

A source file is damaged when malformed contents are put in its place, or when paths that lead to it
can no longer be read (`Damage`).  That strikes the paths of these files and nothing else: the walk
finds what it found, every other file reads as before, and so does the descriptor, unless it leads
to the file itself.  So the unit loses the modules at the paths that were struck, with their
symbols, and keeps all others as they were (`damage_stays_in_its_file`).  Contents over which the
parser breaks down do more damage: they end the whole unit (`broken_file_ends_compile`).
-/

import DeclSearch.Proofs.Denials
import DeclSearch.Proofs.Outlines
import DeclSearch.Proofs.Positions
import DeclSearch.Proofs.Projects

namespace DeclSearch

open Text (Bytes)
open Workspace (Path Tree Quest)

namespace Workspace
namespace Tree

/-- Whether a path leads to the place of some names. -/
def leadsTo (t : Tree) (names : List String) (p : Path) : Bool :=
  match t.resolve p with
  | .ok place => place.names == names
  | .error _ => false

/-- A path does not lead to a place if it leads to no entry there. -/
theorem leadsTo_eq_false_iff {t : Tree} {names : List String} {p : Path} :
    t.leadsTo names p = false ↔ ∀ e, t.resolve p ≠ .ok ⟨names, e⟩ := by
  unfold leadsTo
  rcases t.resolve p with fault | ⟨place, e⟩
  · simp
  · refine beq_eq_false_iff_ne.trans ⟨fun hne e' he => hne ?_, fun h hplace => h e (hplace ▸ rfl)⟩
    exact (Place.mk.inj (Except.ok.inj he)).1

/-- A path leads to a place if it leads to some entry there. -/
theorem leadsTo_iff {t : Tree} {names : List String} {p : Path} :
    t.leadsTo names p ↔ ∃ e, t.resolve p = .ok ⟨names, e⟩ := by
  rw [← Bool.not_eq_false, leadsTo_eq_false_iff]
  simp

end Tree
end Workspace
namespace Python

variable {excludedDirs : List String} {tree after : Tree} {unit root : Path}

/-- Whether the parser breaks down over a source file. -/
def breaksParser (tree : Tree) (file : Path) : Bool :=
  match tree.read file with
  | .error _ => false
  | .ok content =>
    match parse content with
    | .error .internal => true
    | _ => false

namespace Project

/-- The module in a source file below a folder, if the file can be read and parsed. -/
def moduleIn? (tree : Tree) (root file : Path) : Option Module :=
  match parse? tree root file with
  | .ok found => found
  | .error _ => none

/-- Below its folder a file is parsed or skipped, unless the parser breaks down over it. -/
theorem parse?_eq {file : Path} (h : root.Above file) :
    parse? tree root file =
      if breaksParser tree file then .error .brokenParser else .ok (moduleIn? tree root file) := by
  obtain ⟨name, hname⟩ := Module.exists_nameOf_eq_ok h
  unfold moduleIn? parse? breaksParser
  rcases tree.read file with e | content
  · rfl
  · rcases hbody : parse content with (_ | _) | body
    · simp [hbody]
    · simp [hbody]
    · simp [hbody, hname, bind, Except.bind, pure, Except.pure]

/-- A module has the path of its file. -/
theorem path_of_moduleIn? {file : Path} {m : Module} (h : moduleIn? tree root file = some m) :
    m.path = file := by
  unfold moduleIn? at h
  split at h
  · next hparse => exact (parse?_eq_ok_some_iff.1 (h ▸ hparse)).1
  · exact nomatch h

/-- A file is no module if it is malformed, and only then. -/
theorem isNone_moduleIn? {file : Path} (h : root.Above file) :
    (moduleIn? tree root file).isNone = isMalformed tree file := by
  obtain ⟨name, hname⟩ := Module.exists_nameOf_eq_ok h
  unfold moduleIn? parse? isMalformed
  rcases tree.read file with e | content
  · rfl
  · rcases hbody : parse content with (_ | _) | body
    · simp [statements?, hbody, Except.toOption]
    · simp [statements?, hbody, Except.toOption]
    · simp [statements?, hbody, hname, Except.toOption, bind, Except.bind, pure, Except.pure]

/-- The unit that a file describes, if its source files are these. -/
def ofSources (tree : Tree) (unit : Path) (sources : List Path) : Project where
  unit
  root := unit.parent
  modules := sources.filterMap (moduleIn? tree unit.parent)
  symbols := (sources.filterMap (moduleIn? tree unit.parent)).flatMap Module.declarations
  skipped := sources.filter (isMalformed tree)

/-- **A unit with a valid descriptor is compiled** to the modules of its source files, unless the
parser breaks down over one of them. -/
theorem compile_eq {sources : List Path}
    (hsources : tree.walk unit.parent (Quest.of [".py"] excludedDirs) = sources)
    (hbelow : ∀ file ∈ sources, unit.parent.Above file)
    (hcheck : Descriptor.check tree unit = .ok ()) (hnul : unit.parent.hasNul = false) :
    compile excludedDirs tree unit =
      if sources.any (breaksParser tree) then .error .brokenParser
      else .ok (ofSources tree unit sources) := by
  subst hsources
  have hfiles : Failure.ofAccess (tree.walkFiles unit.parent (Quest.of [".py"] excludedDirs)) =
      .ok (tree.walk unit.parent (Quest.of [".py"] excludedDirs)) := by
    rw [ofAccess_walkFiles, Path.checkNul, hnul]
    rfl
  -- The files are parsed one after another, up to the first that the parser breaks down over.
  have hparsed := @Except.mapM_eq_ite _ _ _
    (fun file => do return (file, ← parse? tree unit.parent file)) (breaksParser tree)
    Failure.brokenParser (fun file => (file, moduleIn? tree unit.parent file))
    (tree.walk unit.parent (Quest.of [".py"] excludedDirs)) fun file hfile => by
      rw [parse?_eq (hbelow file hfile)]
      cases breaksParser tree file <;> rfl
  have hskipped : (((tree.walk unit.parent (Quest.of [".py"] excludedDirs)).map
        fun file => (file, moduleIn? tree unit.parent file)).filter
          fun entry => entry.2.isNone).map Prod.fst =
      (tree.walk unit.parent (Quest.of [".py"] excludedDirs)).filter (isMalformed tree) := by
    rw [List.filter_map, List.map_map]
    refine (List.map_id' _).trans (List.filter_congr fun file hfile => ?_)
    exact isNone_moduleIn? (hbelow file hfile)
  simp only [bind, Except.bind, pure, Except.pure] at hparsed
  simp only [compile, hcheck, hfiles, bind, Except.bind, pure, Except.pure]
  rw [hparsed]
  cases (tree.walk unit.parent (Quest.of [".py"] excludedDirs)).any (breaksParser tree)
  · refine congrArg Except.ok ?_
    simp only [ofSources, List.filterMap_map, hskipped]
    rfl
  · rfl

end Project

/-- Damage to the file at the place of some names: malformed contents are put there, or some of the
source files that lead there can no longer be read.  The last argument tells the paths
that are struck. -/
inductive Damage (tree : Tree) (sources : List Path) (names : List String) :
    Tree → (Path → Bool) → Prop
  | unparsable {old content : Bytes} (file : tree.at? names = some (.file old))
      (bad : parse content = .error .malformed) :
      Damage tree sources names (tree.withContent names content) (tree.leadsTo names)
  | unreadable {paths : List Path}
      (lead : ∀ p ∈ paths, p ∈ sources ∧ tree.leadsTo names p) :
      Damage tree sources names (tree.withRefused paths) fun p => paths.contains p

namespace Damage

variable {names : List String} {q : Quest} {struck : Path → Bool}

/-- **Damage does not change what a walk finds.** -/
theorem walk_eq (h : Damage tree (tree.walk root q) names after struck) :
    after.walk root q = tree.walk root q := by
  cases h with
  | unparsable file bad => exact Tree.walk_withContent file _ root q
  | unreadable lead => exact Tree.walk_withRefused (fun p hp => (lead p hp).1) q

/-- What does not lead to the file is not struck. -/
theorem struck_eq_false {sources : List Path} (h : Damage tree sources names after struck)
    {p : Path} (hp : tree.leadsTo names p = false) : struck p = false := by
  cases h with
  | unparsable file bad => exact hp
  | unreadable lead =>
    refine Bool.eq_false_iff.2 fun hmem => ?_
    have hlead := (lead p (List.contains_iff_mem.1 hmem)).2
    rw [hp] at hlead
    exact nomatch hlead

/-- What is not struck reads as before. -/
theorem read_eq (h : Damage tree (tree.walk root q) names after struck)
    {below : List String} (hbelow : ".." ∉ below) (hp : struck (root.descend below) = false) :
    after.read (root.descend below) = tree.read (root.descend below) := by
  cases h with
  | unparsable file bad => exact Tree.read_withContent_of_ne file _ (Tree.leadsTo_eq_false_iff.1 hp)
  | unreadable lead =>
    refine Tree.read_withRefused_of_notMem (fun p hp => (lead p hp).1) hbelow fun hmem => ?_
    exact nomatch hp.symm.trans (List.contains_iff_mem.2 hmem)

/-- What is struck cannot be read, or is malformed. -/
theorem read_of_struck {sources : List Path} (h : Damage tree sources names after struck)
    {p : Path} (hp : struck p = true) :
    (∃ e, after.read p = .error e) ∨
      ∃ content, after.read p = .ok content ∧ parse content = .error .malformed := by
  cases h with
  | @unparsable old content file bad =>
    obtain ⟨e, hlead⟩ := Tree.leadsTo_iff.1 hp
    rw [Tree.read_withContent_of_leads file _ hlead]
    split
    · exact .inl ⟨_, rfl⟩
    · exact .inr ⟨content, rfl, bad⟩
  | unreadable lead =>
    exact .inl ⟨_, Tree.read_withRefused_of_mem (List.contains_iff_mem.1 hp)⟩

/-- What is struck is skipped. -/
theorem isMalformed_of_struck {sources : List Path} (h : Damage tree sources names after struck)
    {p : Path} (hp : struck p = true) : isMalformed after p = true := by
  rcases h.read_of_struck hp with ⟨e, hread⟩ | ⟨content, hread, hbad⟩
  · simp [isMalformed, hread]
  · simp [isMalformed, hread, statements?, hbad, Except.toOption]

/-- A source file is skipped afterwards if it was before, or is struck. -/
theorem isMalformed_eq
    (h : Damage tree (tree.walk root q) names after struck) :
    ∀ file ∈ tree.walk root q,
      isMalformed after file = (struck file || isMalformed tree file) := by
  intro file hfile
  cases hstruck : struck file with
  | true => exact h.isMalformed_of_struck hstruck
  | false =>
    obtain ⟨-, -, below, -, rfl, -, hdots, -⟩ := Tree.exists_names_of_mem_walk hfile
    rw [isMalformed, isMalformed, h.read_eq hdots hstruck, Bool.false_or]

/-- Damage does not break the parser. -/
theorem breaksParser_eq (h : Damage tree (tree.walk root q) names after struck) :
    ∀ file ∈ tree.walk root q,
      breaksParser after file = (!struck file && breaksParser tree file) := by
  intro file hfile
  cases hstruck : struck file with
  | true =>
    rcases h.read_of_struck hstruck with ⟨e, hread⟩ | ⟨content, hread, hbad⟩
    · simp [breaksParser, hread]
    · simp [breaksParser, hread, hbad]
  | false =>
    obtain ⟨-, -, below, -, rfl, -, hdots, -⟩ := Tree.exists_names_of_mem_walk hfile
    rw [breaksParser, breaksParser, h.read_eq hdots hstruck, Bool.not_false, Bool.true_and]

/-- A source file that is not struck is the module that it was. -/
theorem moduleIn?_eq
    (h : Damage tree (tree.walk root q) names after struck) :
    ∀ file ∈ tree.walk root q, Project.moduleIn? after root file =
      if struck file then none else Project.moduleIn? tree root file := by
  intro file hfile
  cases hstruck : struck file with
  | true =>
    have hnone : (Project.moduleIn? after root file).isNone = isMalformed after file :=
      Project.isNone_moduleIn? (Tree.above_of_mem_walk hfile)
    rw [h.isMalformed_of_struck hstruck] at hnone
    exact Option.isNone_iff_eq_none.1 hnone
  | false =>
    obtain ⟨-, -, below, -, rfl, -, hdots, -⟩ := Tree.exists_names_of_mem_walk hfile
    rw [Project.moduleIn?, Project.moduleIn?, Project.parse?, Project.parse?,
      h.read_eq hdots hstruck]
    rfl

/-- A descriptor that does not lead to the file is checked as before. -/
theorem check_eq (h : Damage tree (tree.walk root q) names after struck) {name : String}
    (hname : name ≠ "..") (hlead : tree.leadsTo names (root.descend [name]) = false) :
    Descriptor.check after (root.descend [name]) = Descriptor.check tree (root.descend [name]) := by
  have hdots : ".." ∉ [name] := by simpa [eq_comm] using hname
  have hread := h.read_eq hdots (h.struck_eq_false hlead)
  rw [Descriptor.check, Descriptor.check, Descriptor.fault?, Descriptor.fault?, hread]

end Damage

/-- A file with the suffix of a descriptor has a name, and that is no step upwards. -/
theorem eq_descend_of_format {format : Descriptor.Format}
    (h : Descriptor.Format.ofSuffix? unit.suffix = some format) :
    ∃ name, unit = unit.parent.descend [name] ∧ name ≠ ".." := by
  rcases List.eq_nil_or_concat unit.names with hnames | ⟨front, name, hnames⟩
  · have hnone : Descriptor.Format.ofSuffix? (Path.splitSuffix "").2 = none := by decide +kernel
    rw [Path.suffix, Path.name, hnames] at h
    exact nomatch hnone.symm.trans h
  · rw [List.concat_eq_append] at hnames
    refine ⟨name, ?_, ?_⟩
    · rw [Path.descend, Path.parent, hnames, List.dropLast_concat, ← hnames]
    · rintro rfl
      have hnone : Descriptor.Format.ofSuffix? (Path.splitSuffix "..").2 = none := by decide +kernel
      rw [Path.suffix, Path.name, hnames, List.getLastD_concat] at h
      exact nomatch hnone.symm.trans h

/-- The folder of a valid descriptor can be asked for. -/
theorem hasNul_parent_of_check {format : Descriptor.Format}
    (hformat : Descriptor.Format.ofSuffix? unit.suffix = some format)
    (hcheck : Descriptor.check tree unit = .ok ()) : unit.parent.hasNul = false := by
  obtain ⟨content, hread⟩ : ∃ content, tree.read unit = .ok content := by
    unfold Descriptor.check Descriptor.fault? at hcheck
    rw [hformat] at hcheck
    rcases hread : tree.read unit with e | content
    · simp [hread, bind, Except.bind] at hcheck
    · exact ⟨content, rfl⟩
  obtain ⟨-, names, hresolve, -⟩ := Tree.exists_of_read hread
  have hnul : unit.hasNul = false := (Tree.resolveWithin_eq_ok_iff.1 hresolve).1
  refine List.any_eq_false.2 fun name hname => ?_
  exact List.any_eq_false.1 hnul name (List.dropLast_subset _ hname)

/-- The symbols of a module have its file. -/
theorem ofString_file_of_mem_declarations {m : Module} (hm : m.path.Proper) :
    ∀ s ∈ m.declarations, Path.ofString s.location.file = m.path := by
  intro s hs
  rw [Module.file_of_mem_declarations hs, Path.ofString_render hm]

/-- What comes of the items may be sifted afterwards, or the items beforehand, if all that comes of
an item is kept along with it. -/
theorem filter_flatMap_eq {α β : Type} {f : α → List β} {p : α → Bool} {q : β → Bool} {l : List α}
    (h : ∀ a ∈ l, ∀ b ∈ f a, q b = p a) : (l.flatMap f).filter q = (l.filter p).flatMap f := by
  induction l with
  | nil => rfl
  | cons a l ih =>
    obtain ⟨ha, hl⟩ := List.forall_mem_cons.1 h
    rw [List.flatMap_cons, List.filter_append, ih hl, List.filter_cons]
    cases hp : p a with
    | true =>
      rw [List.filter_eq_self.2 fun b hb => (ha b hb).trans hp, if_pos rfl, List.flatMap_cons]
    | false =>
      rw [List.filter_eq_nil_iff.2 fun b hb => by simp [ha b hb, hp], List.nil_append, if_neg nofun]

namespace Damage

variable {names : List String} {q : Quest} {struck : Path → Bool}

/-- **The modules that are not struck stay**, in their order: a file of the walk is a module after
the damage if it was one before and is not struck, and then it is the same one. -/
theorem modules_eq (h : Damage tree (tree.walk root q) names after struck) :
    (tree.walk root q).filterMap (Project.moduleIn? after root) =
      ((tree.walk root q).filterMap (Project.moduleIn? tree root)).filter
        fun m => !struck m.path := by
  rw [List.filter_filterMap]
  refine List.filterMap_congr fun file hfile => ?_
  rw [h.moduleIn?_eq file hfile]
  rcases hm : Project.moduleIn? tree root file with _ | m
  · simp
  · rw [Option.filter, Project.path_of_moduleIn? hm]
    cases struck file <;> rfl

/-- **The symbols of the modules that are not struck stay**, in their order. A symbol is located in
the file of its module, so its location tells whether it is struck. -/
theorem symbols_eq (hroot : root.Proper)
    (h : Damage tree (tree.walk root q) names after struck) :
    ((tree.walk root q).filterMap (Project.moduleIn? after root)).flatMap Module.declarations =
      (((tree.walk root q).filterMap (Project.moduleIn? tree root)).flatMap
        Module.declarations).filter fun s => !struck (.ofString s.location.file) := by
  rw [h.modules_eq]
  refine (filter_flatMap_eq fun m hm s hs => ?_).symm
  obtain ⟨file, hfile, hm⟩ := List.mem_filterMap.1 hm
  have hproper : m.path.Proper := by
    rw [Project.path_of_moduleIn? hm]
    exact Tree.proper_of_mem_walk hroot file hfile
  rw [ofString_file_of_mem_declarations hproper s hs]

end Damage

namespace Damage

variable {names : List String} {struck : Path → Bool}

/-- **A damaged unit is compiled** as it was, over the same source files, if its descriptor does not
lead to the damaged file. -/
theorem compile_eq
    (h : Damage tree (tree.walk unit.parent (Quest.of [".py"] excludedDirs)) names after struck)
    {format : Descriptor.Format}
    (hformat : Descriptor.Format.ofSuffix? unit.suffix = some format)
    (hlead : tree.leadsTo names unit = false) (hcheck : Descriptor.check tree unit = .ok ())
    (hwhole : ∀ file ∈ tree.walk unit.parent (Quest.of [".py"] excludedDirs),
      breaksParser tree file = false) :
    Project.compile excludedDirs after unit = .ok (Project.ofSources after unit
      (tree.walk unit.parent (Quest.of [".py"] excludedDirs))) := by
  have hcheck' : Descriptor.check after unit = .ok () := by
    obtain ⟨name, hname, hdots⟩ := eq_descend_of_format hformat
    rw [hname] at hlead hcheck ⊢
    exact (h.check_eq hdots hlead).trans hcheck
  have hwhole' : ¬ (tree.walk unit.parent (Quest.of [".py"] excludedDirs)).any
      (breaksParser after) := by
    rw [List.any_eq_true]
    rintro ⟨file, hfile, hbreaks⟩
    rw [h.breaksParser_eq file hfile, hwhole file hfile, Bool.and_false] at hbreaks
    exact Bool.noConfusion hbreaks
  have hnul := hasNul_parent_of_check hformat hcheck
  exact (Project.compile_eq h.walk_eq (fun file => Tree.above_of_mem_walk) hcheck' hnul).trans
    (if_neg hwhole')

end Damage

/-- A unit is not compiled if there is a fault in its descriptor. -/
theorem Project.compile_of_fault {reason : String}
    (h : Descriptor.fault? tree unit = .ok (some reason)) :
    compile excludedDirs tree unit = .error (.malformed unit.name reason) := by
  rw [compile, Descriptor.check, h]
  rfl

/-- A unit is not compiled if the check of its descriptor fails. -/
theorem Project.compile_of_failure {failure : Failure}
    (h : Descriptor.fault? tree unit = .error failure) :
    compile excludedDirs tree unit = .error failure := by
  rw [compile, Descriptor.check, h]
  rfl

/-- The source files of a unit with one module. -/
theorem sources_loneModule (content : Bytes) :
    (loneModule content).walk loneUnit.parent (Quest.of [".py"] []) = [loneFile] := by
  have hparent : loneUnit.parent = .here := rfl
  rw [hparent, walk_loneModule]
  decide +kernel

/-- A text over which the parser breaks down: in a string of several lines an operand is missing at
the end of one. -/
def brokenText : Bytes := Text.bytesOf "f'''\x7ba\n+\x7d'''\n".toList

end Python
end DeclSearch
