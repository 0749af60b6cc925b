/-
# Units inside one another

The folder of a unit may lie in that of another unit, and then the files of the inner unit are
files of the outer one as well.  What a module declares has the same places, the same names and
the same kinds in both, and only the qualified names differ (`map_unqualified_declaredIn`), so
what the inner unit has found the outer one has found too (`exists_found_of_atOrAbove`).

The outer unit comes first in the order of a walk, and of several reports of one declaration the
first stays.  So the name that stays is the one that the declaration has from the outermost unit
(`declaration_named_by_outermost_unit`).
-/

import DeclSearch.Proofs.Representatives
import DeclSearch.Proofs.WalkOrder

namespace DeclSearch
namespace Python

open Workspace (Path Tree Quest arrange)

/-- A symbol without its qualified name. -/
def unqualified (s : Symbol) : Symbol := { s with qualifiedName := "" }

/-- A symbol keeps its name without its qualified name. -/
theorem name_unqualified (s : Symbol) : (unqualified s).name = s.name := rfl

/-- A symbol keeps its kind without its qualified name. -/
theorem kindOf_unqualified (s : Symbol) : kindOf (unqualified s) = kindOf s := rfl

/-- A symbol keeps its site without its qualified name. -/
theorem declaredSite_unqualified (s : Symbol) : declaredSite (unqualified s) = declaredSite s := rfl

/-- The symbols of an assignment depend on their module by file and scope alone, but for their
qualified names. -/
theorem map_unqualified_assigned {site other : Site} (hfile : site.file = other.file)
    (hscope : site.scope = other.scope) (targets : List Expr) (typeHint : String)
    (value : Option Expr) :
    (assigned site targets typeHint value).map unqualified =
      (assigned other targets typeHint value).map unqualified := by
  unfold assigned
  rw [hscope]
  rcases assignmentCategory? other.scope typeHint (factoryName value) with _ | category
  · rfl
  · dsimp only
    rw [List.map_filterMap, List.map_filterMap]
    refine congrArg (fun f => targets.filterMap f) (funext fun target => ?_)
    cases target <;> simp [unqualified, Site.symbol, hfile]

/-- The symbols of a statement depend on their module by file and scope alone, but for their
qualified names. -/
theorem map_unqualified_ownSymbols {site other : Site} (hfile : site.file = other.file)
    (hscope : site.scope = other.scope) (st : Stmt) :
    (ownSymbols site st).map unqualified = (ownSymbols other st).map unqualified := by
  cases st with
  | classDef | functionDef => simp [ownSymbols, unqualified, Site.symbol, hfile, hscope]
  | annotated | assign => exact map_unqualified_assigned hfile hscope _ _ _
  | _ => rfl

/-- The scope of a body does not depend on what its statement is called. -/
theorem Stmt.scope_bodySite {site other : Site} (hscope : site.scope = other.scope) (st : Stmt) :
    (st.bodySite site).scope = (st.bodySite other).scope := by
  cases st with
  | classDef | functionDef => rfl
  | _ => exact hscope

/-- **Where a body stands qualifies the names that it declares**, and changes nothing else about
them. The names of the two sites go down into the bodies inside, where only the file and the scope
decide what is declared. -/
theorem map_unqualified_declaredIn (site other : Site) (hfile : site.file = other.file)
    (hscope : site.scope = other.scope) (body : List Stmt) :
    (declaredIn site body).map unqualified = (declaredIn other body).map unqualified := by
  induction body using blocks_induction generalizing site other with
  | nil => rfl
  | cons st rest ihblocks ihrest =>
    have hblocks : (st.openBlocks.flatMap (declaredIn (st.bodySite site))).map unqualified =
        (st.openBlocks.flatMap (declaredIn (st.bodySite other))).map unqualified := by
      rw [List.map_flatMap, List.map_flatMap]
      refine List.flatMap_congr fun block hblock => ?_
      refine ihblocks block (st.openBlocks_sublist.subset hblock) _ _ ?_ (st.scope_bodySite hscope)
      rw [Stmt.file_bodySite, Stmt.file_bodySite, hfile]
    rw [declaredIn, declaredIn, declaredBy_eq, declaredBy_eq]
    simp only [List.map_append, hblocks, map_unqualified_ownSymbols hfile hscope st,
      ihrest site other hfile hscope]

/-- The symbol of a module is reported as a namespace. -/
theorem kindOf_symbol (m : Module) : kindOf m.symbol = .namespaceDecl := by
  by_cases h : m.path.name = packageFile <;> simp only [kindOf, Module.symbol, h, if_true, if_false]
    <;> rfl

variable {σ : Type} {settings : Settings} {excludedDirs : List String} {sink : Sink σ}
  {tree : Tree} {r : Request}

/-- The quest for the sources of a unit. -/
def sources (excludedDirs : List String) : Quest :=
  Quest.of [".py"] (profile excludedDirs).excludedDirs

/-- A declaration that a unit has: a source file below the unit's folder can be read and parsed,
and the symbol is declared in it under the name that the module has from there. -/
structure Declares (excludedDirs : List String) (tree : Tree) (unit file : Path) (s : Symbol) :
    Prop where
  walked : file ∈ tree.walk unit.parent (sources excludedDirs)
  declared : ∃ content body name, tree.read file = .ok content ∧ statements? content = some body ∧
    Module.nameOf unit.parent file = .ok name ∧
    s ∈ declaredIn ⟨file.render, name, .moduleBody⟩ body

namespace Declares

variable {unit file : Path} {s : Symbol}

/-- A declaration is located in its file. -/
theorem file_eq (h : Declares excludedDirs tree unit file s) : s.location.file = file.render := by
  obtain ⟨_, _, _, _, _, _, hdeclared⟩ := h.declared
  obtain ⟨_, _, _, _, _, _, hlocation, -, rfl⟩ := exists_of_mem_declaredIn _ _ s hdeclared
  exact hlocation

/-- A file that a unit declares something in is below the unit's folder. -/
theorem above (h : Declares excludedDirs tree unit file s) :
    unit.parent.Above file :=
  Tree.above_of_mem_walk h.walked

/-- A file that a unit declares something in has a path of names, if the unit has. -/
theorem proper (hunit : unit.Proper)
    (h : Declares excludedDirs tree unit file s) : file.Proper :=
  Tree.proper_of_mem_walk hunit.parent file h.walked

end Declares

/-- **What a unit has found** besides namespaces: the declarations in its source files with names
that the query accepts, if it did not fail. -/
theorem mem_found_iff_declares {unit : Path} {s : Symbol} (hkind : kindOf s ≠ .namespaceDecl) :
    s ∈ found settings excludedDirs sink tree r unit ↔
      (∃ batch, (searcher settings excludedDirs sink).unitAnswer tree r unit = .ok batch) ∧
        r.nameTest.accepts s.name ∧ ∃ file, Declares excludedDirs tree unit file s := by
  have hmodules {p : Project} (hp : (backend excludedDirs).compile tree unit = .ok p) :
      s ∈ p.symbols ↔ ∃ file, Declares excludedDirs tree unit file s := by
    rw [Project.symbols_of_compile hp, List.mem_flatMap]
    constructor
    · rintro ⟨m, hm, hs⟩
      obtain ⟨hwalked, content, hread, hbody, hname, -⟩ := (Project.mem_modules_iff hp).1 hm
      refine ⟨m.path, hwalked, content, m.body, m.name, hread, hbody, hname,
        (Module.eq_symbol_or_mem_declaredIn hs).resolve_left fun hself => hkind ?_⟩
      rw [hself, kindOf_symbol]
    · rintro ⟨file, hwalked, content, body, name, hread, hbody, hname, hs⟩
      exact ⟨⟨file, name, body, content.isEmpty⟩,
        (Project.mem_modules_iff hp).2 ⟨hwalked, content, hread, hbody, hname, rfl⟩,
        List.mem_append_right _ hs⟩
  rw [mem_found_iff]
  constructor
  · rintro ⟨p, batch, hp, hbatch, hs⟩
    obtain ⟨hs, haccepts⟩ := List.mem_filter.1 hs
    exact ⟨⟨batch, Except.bind_eq_ok_iff.2 ⟨p, hp, hbatch⟩⟩, haccepts, (hmodules hp).1 hs⟩
  · rintro ⟨⟨batch, hanswer⟩, haccepts, hdeclares⟩
    obtain ⟨p, hp, hbatch⟩ := Except.bind_eq_ok_iff.1 hanswer
    exact ⟨p, batch, hp, hbatch, List.mem_filter.2 ⟨(hmodules hp).2 hdeclares, haccepts⟩⟩

/-- **What one unit has found in a file another one that has the file has found too**, if it did not
fail: at the same site, though under another qualified name. -/
theorem Declares.exists_found {unit other file : Path} {s : Symbol}
    (h : Declares excludedDirs tree unit file s) (haccepts : r.nameTest.accepts s.name)
    (hkind : kindOf s ≠ .namespaceDecl)
    (hfile : file ∈ tree.walk other.parent (sources excludedDirs))
    (hanswer : ∃ batch,
      (searcher settings excludedDirs sink).unitAnswer tree r other = .ok batch) :
    ∃ first ∈ found settings excludedDirs sink tree r other,
      declaredSite first = declaredSite s := by
  obtain ⟨content, body, name, hread, hbody, -, hs⟩ := h.declared
  obtain ⟨otherName, hotherName⟩ := Module.exists_nameOf_eq_ok (Tree.above_of_mem_walk hfile)
  -- The other unit declares the same symbols, up to their qualified names.
  have hsame := map_unqualified_declaredIn ⟨file.render, name, .moduleBody⟩
    ⟨file.render, otherName, .moduleBody⟩ rfl rfl body
  obtain ⟨first, hfirst, heq⟩ := List.mem_map.1 (hsame ▸ List.mem_map_of_mem hs)
  refine ⟨first, (mem_found_iff_declares ?_).2 ⟨hanswer, ?_, file, hfile, content, body,
    otherName, hread, hbody, hotherName, hfirst⟩, ?_⟩
  · rwa [← kindOf_unqualified, heq, kindOf_unqualified]
  · rwa [← name_unqualified, heq, name_unqualified]
  · rw [← declaredSite_unqualified, heq, declaredSite_unqualified]

/-- **The units of a level whose folders lie above a file have the file**, if one of them has it,
unless its path is too long for the walk from there. -/
theorem mem_walk_of_discover_above {root : Path} {level : Level} {units : List Path}
    (h : (backend excludedDirs).discover tree root level = .ok units) {unit other file : Path}
    (hunit : unit ∈ units) (hother : other ∈ units)
    (hfile : file ∈ tree.walk unit.parent (sources excludedDirs))
    (habove : other.parent.Above file)
    (hsize : file.render.utf8ByteSize ≤ Tree.walkLimit other.parent) :
    file ∈ tree.walk other.parent (sources excludedDirs) := by
  rcases Path.AtOrAbove.total (Tree.above_of_mem_walk hfile).1 habove.1 with hinner | houter
  · exact Tree.mem_walk_of_above hfile hinner habove
  · have hsame : (Quest.of ((profile excludedDirs).descriptors level)
        (profile excludedDirs).excludedDirs).excluded = (sources excludedDirs).excluded := rfl
    exact Tree.mem_walk_of_atOrAbove hsame (mem_walk_of_discover h hother)
      (mem_walk_of_discover h hunit) houter hfile hsize

/-- **Outer units are found first**: no unit lies in a folder below that of a unit behind it. Units
are discovered by a walk, in which the files of a folder come before those of the folders in it. -/
theorem pairwise_discover {root : Path} {level : Level} {units : List Path}
    (h : (backend excludedDirs).discover tree root level = .ok units) :
    units.Pairwise Path.MayPrecede := by
  rw [eq_of_discover h]
  exact ((Tree.pairwise_walk root _).imp Path.FoundBefore.mayPrecede).filter _

/-- **Units are discovered from the outside to the inside.** -/
theorem lt_of_parent_above {root : Path} {level : Level} {units : List Path}
    (h : (backend excludedDirs).discover tree root level = .ok units) {i j : Nat}
    (hi : i < units.length) (hj : j < units.length)
    (habove : units[i].parent.Above units[j].parent) : i < j := by
  have hordered := pairwise_discover h
  by_contra hle
  rcases Nat.lt_or_eq_of_le (Nat.le_of_not_lt hle) with hlt | rfl
  · exact (List.pairwise_iff_getElem.1 hordered j i hj hi hlt).2 habove
  · exact Path.not_above_self _ habove

/-- The first of what some lists hold comes from a list in front of which none holds such. -/
theorem exists_of_find?_flatMap {α β : Type} {f : α → List β} {test : β → Bool} {l : List α} {b : β}
    (h : (l.flatMap f).find? test = some b) :
    ∃ front a back, l = front ++ a :: back ∧ b ∈ f a ∧ ∀ c ∈ front, ∀ x ∈ f c, test x = false := by
  rw [List.find?_flatMap, List.findSome?_eq_some_iff] at h
  obtain ⟨front, a, back, hl, ha, hfront⟩ := h
  refine ⟨front, a, back, hl, List.mem_of_find?_eq_some ha, fun c hc x hx => ?_⟩
  simpa using List.find?_eq_none.1 (hfront c hc) x hx

/-- A result that is no reference has the name of the first symbol that was found at its site: the
units in front of the one that has found it have found nothing there. -/
theorem exists_first_found {o : Outcome} {level : Level} {units : List Path}
    (hanswered : (searcher settings excludedDirs sink).AnsweredBy tree r o level units) {m : Match}
    (hm : m ∈ o.results) (hreference : m.kind ≠ .reference) :
    ∃ front unit back, units = front ++ unit :: back ∧
      ∃ s ∈ found settings excludedDirs sink tree r unit,
        declaredSite s = m.site ∧ m.name = s.qualifiedName ∧
          ∀ other ∈ front, ∀ first ∈ found settings excludedDirs sink tree r other,
            declaredSite first ≠ m.site := by
  rw [hanswered.results] at hm
  have hnames : ((units.flatMap ((searcher settings excludedDirs sink).unitMatches tree r)).find?
      fun other => other.site = m.site).map Match.name = _ :=
    find?_flatMap_unitMatches units hreference
  rw [Searcher.find?_of_mem_firstReports hm] at hnames
  obtain ⟨s, hs, hname⟩ := Option.map_eq_some_iff.1 hnames.symm
  have hsite : declaredSite s = m.site := by simpa using List.find?_some hs
  obtain ⟨front, unit, back, hunits, hfound, hfront⟩ := exists_of_find?_flatMap hs
  refine ⟨front, unit, back, hunits, s, hfound, hsite, hname.symm, ?_⟩
  intro other hother first hfirst
  simpa using hfront other hother first hfirst

/-- **The unit that has found a declaration first is the outermost one** of those that have the file
and did not fail: one further outside would come before it, and would have found the declaration
too. -/
theorem atOrAbove_of_first_found {root unit : Path} {level : Level} {front back : List Path}
    (hunits : (backend excludedDirs).discover tree root level = .ok (front ++ unit :: back))
    {file : Path} {s : Symbol} (hs : Declares excludedDirs tree unit file s)
    (haccepts : r.nameTest.accepts s.name) (hkind : kindOf s ≠ .namespaceDecl)
    (hfront : ∀ other ∈ front, ∀ first ∈ found settings excludedDirs sink tree r other,
      declaredSite first ≠ declaredSite s)
    {other : Path} (hother : other ∈ front ++ unit :: back)
    (hfile : file ∈ tree.walk other.parent (sources excludedDirs))
    (hanswer : ∃ batch,
      (searcher settings excludedDirs sink).unitAnswer tree r other = .ok batch) :
    unit.parent.AtOrAbove other.parent := by
  rcases Path.AtOrAbove.total hs.above.1 (Tree.above_of_mem_walk hfile).1 with hinner | houter
  · exact hinner
  by_contra hnot
  have hstrict : other.parent.Above unit.parent :=
    ⟨houter, fun he => hnot (he ▸ Path.AtOrAbove.refl _)⟩
  rcases List.mem_append.1 hother with hother | hother
  · obtain ⟨first, hfirst, hsite⟩ := hs.exists_found haccepts hkind hfile hanswer
    exact hfront other hother first hfirst hsite
  · rcases List.mem_cons.1 hother with rfl | hother
    · exact Path.not_above_self _ hstrict
    · have hordered := (pairwise_discover hunits).sublist
        (List.sublist_append_right front (unit :: back))
      exact (List.rel_of_pairwise_cons hordered hother).2 hstrict

/-- **A declaration is named by the outermost unit.**  The units of a level are discovered from the
outside to the inside: one whose folder lies above that of another comes before it.  Where a level
has answered a search, no two results share file, line and kind, and every result that is no
reference and no namespace has the qualified name of a declaration in its file, as this is named
from the folder of a unit that has the file and was analysed without error; and of all units of the
level that have the file and were analysed without error, none has a folder further outside.  A unit
of the level has every such file that lies below its folder, unless the path of the file is too long
for a walk from there. -/
theorem declaration_named_by_outermost_unit (hroot : r.root.Proper) :
    (∀ root level units, (backend excludedDirs).discover tree root level = .ok units →
      ∀ i j (hi : i < units.length) (hj : j < units.length),
        units[i].parent.Above units[j].parent → i < j) ∧
    ∀ record o after,
      ((searcher settings excludedDirs sink).search tree r).result record = (.ok o, after) →
      o.strategy ≠ "text" →
      (o.results.map Match.site).Nodup ∧
      ∃ level units, (searcher settings excludedDirs sink).AnsweredBy tree r o level units ∧
        ∀ m ∈ o.results, m.kind ≠ .reference → m.kind ≠ .namespaceDecl →
          ∃ unit ∈ units, ∃ file content body name s, Path.ofString m.file = file ∧
            file ∈ tree.walk unit.parent (sources excludedDirs) ∧
            (∃ batch,
              (searcher settings excludedDirs sink).unitAnswer tree r unit = .ok batch) ∧
            (∀ other ∈ units, file ∈ tree.walk other.parent (sources excludedDirs) →
              (∃ batch,
                (searcher settings excludedDirs sink).unitAnswer tree r other = .ok batch) →
              unit.parent.AtOrAbove other.parent) ∧
            (∀ other ∈ units, other.parent.Above file →
              file.render.utf8ByteSize ≤ Tree.walkLimit other.parent →
              file ∈ tree.walk other.parent (sources excludedDirs)) ∧
            tree.read file = .ok content ∧ statements? content = some body ∧
            Module.nameOf unit.parent file = .ok name ∧
            s ∈ declaredIn ⟨m.file, name, .moduleBody⟩ body ∧ r.nameTest.accepts s.name ∧
            declaredSite s = m.site ∧ m.name = s.qualifiedName := by
  refine ⟨fun root level units h i j hi hj => lt_of_parent_above h hi hj, ?_⟩
  intro record o after h hlevel
  obtain ⟨level, units, hanswered⟩ := (Searcher.answered_of_result_search h).resolve_left hlevel
  refine ⟨?_, level, units, hanswered, ?_⟩
  · rw [hanswered.results, ← Searcher.distinctSites_nil]
    exact Searcher.nodup_sites _ []
  intro m hm hreference hnamespace
  -- The result stands for the first symbol at its site: no unit in front has a symbol there.
  obtain ⟨front, unit, back, rfl, s, hs, hsite, hname, hfront⟩ :=
    exists_first_found hanswered hm hreference
  have hkind : kindOf s ≠ .namespaceDecl :=
    fun he => hnamespace ((congrArg Match.Site.kind hsite).symm.trans he)
  obtain ⟨hanswer, haccepts, file, hdeclares⟩ := (mem_found_iff_declares hkind).1 hs
  obtain ⟨content, body, name, hread, hbody, hnameOf, hdeclared⟩ := hdeclares.declared
  have hunit : unit ∈ front ++ unit :: back := by simp
  have hunitProper : unit.Proper := Tree.proper_of_mem_walk hroot
    unit (mem_walk_of_discover hanswered.discovered hunit)
  have hfile : m.file = file.render :=
    (congrArg Match.Site.file hsite).symm.trans hdeclares.file_eq
  refine ⟨unit, hunit, file, content, body, name, s, ?_, hdeclares.walked, hanswer, ?_, ?_, hread,
    hbody, hnameOf, ?_, haccepts, hsite, hname⟩
  · rw [hfile, Path.ofString_render (hdeclares.proper hunitProper)]
  · intro other hother hwalked hotherAnswer
    exact atOrAbove_of_first_found hanswered.discovered hdeclares haccepts hkind (hsite ▸ hfront)
      hother hwalked hotherAnswer
  · intro other hother habove hsize
    exact mem_walk_of_discover_above hanswered.discovered hunit hother hdeclares.walked habove hsize
  · rw [hfile]
    exact hdeclared

/-- A folder that describes a unit, and in it another one that does, with a class. -/
def nestedTree : Tree where
  top := [("setup.py", .file []),
    ("x", .folder [("setup.py", .file (Text.bytesOf "class Foo: pass\n".toList))])]
  regular := by decide +kernel

/-- The descriptor of the outer unit. -/
def outerUnit : Path := ⟨.relative, ["setup.py"]⟩

/-- The descriptor of the inner unit. -/
def innerUnit : Path := ⟨.relative, ["x", "setup.py"]⟩

/-- A search for declarations of `Foo`. -/
def requestForFoo : Request := Searcher.requestFor "Foo" true rfl

/-- What a walk of the inner unit finds: the only file below its folder, if it is looked for. -/
theorem walk_innerUnit (q : Quest) :
    nestedTree.walk innerUnit.parent q = if q.wants "setup.py" then [innerUnit] else [] := by
  have hlist : nestedTree.list innerUnit.parent =
      .ok (["x"], [("setup.py", .file (Text.bytesOf "class Foo: pass\n".toList))]) := rfl
  rw [Tree.walk, hlist]
  simp [Tree.branches, Tree.branch, arrange, Path.child, innerUnit, Path.parent]

/-- What a walk of the outer unit finds: its own descriptor first, and then that of the inner
one. -/
theorem walk_outerUnit {q : Quest} (hx : q.excluded.contains "x" = false) :
    nestedTree.walk outerUnit.parent q =
      if q.wants "setup.py" then [outerUnit, innerUnit] else [] := by
  have hlist : nestedTree.list outerUnit.parent = .ok ([], nestedTree.top) := rfl
  have hopen : nestedTree.isClosed (Tree.walkLimit ⟨.relative, []⟩) ⟨.relative, ["x"]⟩ = false := by
    decide +kernel
  have hsorted : (nestedTree.branches q (Tree.walkLimit outerUnit.parent) outerUnit.parent
      nestedTree.top).Pairwise
      fun a b => decide (a.name ≤ b.name) := by
    simp [nestedTree, Tree.branches, Tree.branch]
  rw [Tree.walk, hlist]
  dsimp only
  rw [arrange, List.mergeSort_of_pairwise hsorted]
  rw [show nestedTree.top = [("setup.py", .file []),
    ("x", .folder [("setup.py", .file (Text.bytesOf "class Foo: pass\n".toList))])] from rfl]
  cases hwants : q.wants "setup.py" <;>
    simp [Tree.branches, Tree.branch, hx, hopen, hwants, Path.child, Path.parent, outerUnit,
      innerUnit, arrange, -List.contains_eq_mem]

/-- Both units are found, the outer one first, and on the project level alone. -/
theorem discover_nested (level : Level) :
    (backend []).discover nestedTree outerUnit.parent level =
      .ok (if level = .project then [outerUnit, innerUnit] else []) := by
  have hx : (profile []).excludedDirs.contains "x" = false := by decide +kernel
  have hwalk (names : List String) :=
    walk_outerUnit (q := Quest.of names (profile []).excludedDirs) hx
  unfold backend
  simp only [Profile.discover, hwalk]
  cases level <;> decide +kernel

/-- Both units have found the class, each under a name of its own. -/
theorem unitAnswer_nested :
    (searcher {} [] Sink.collecting).unitAnswer nestedTree requestForFoo outerUnit =
        .ok [⟨"x/setup.py", 1, "x.setup.Foo", .classDecl, ">>> class Foo: pass"⟩] ∧
      (searcher {} [] Sink.collecting).unitAnswer nestedTree requestForFoo innerUnit =
        .ok [⟨"x/setup.py", 1, "setup.Foo", .classDecl, ">>> class Foo: pass"⟩] := by
  have houter : nestedTree.walk outerUnit.parent (sources []) = [outerUnit, innerUnit] := by
    rw [walk_outerUnit (by decide +kernel), if_pos (by decide +kernel)]
  have hinner : nestedTree.walk innerUnit.parent (sources []) = [innerUnit] := by
    rw [walk_innerUnit, if_pos (by decide +kernel)]
  have hcompile (unit : Path) : (searcher {} [] Sink.collecting).backend.compile nestedTree unit =
      Project.compile (profile []).excludedDirs nestedTree unit := rfl
  unfold sources at houter hinner
  simp only [Searcher.unitAnswer, hcompile, Project.compile, Project.ofAccess_walkFiles, houter,
    hinner]
  constructor <;> decide +kernel

/-- What the search for `Foo` comes to: the name from the outer unit. -/
theorem search_nested : ∃ after,
    ((searcher {} [] Sink.collecting).search nestedTree requestForFoo).result ⟨[], [], []⟩ =
      (.ok ⟨requestForFoo, [⟨"x/setup.py", 1, "x.setup.Foo", .classDecl, ">>> class Foo: pass"⟩],
        "project", []⟩, after) := by
  have hcovers : (searcher {} [] Sink.collecting).backend.covers requestForFoo.extensions =
      .ok true := by decide +kernel
  obtain ⟨houter, hinner⟩ := unitAnswer_nested
  rw [Searcher.result_search (by decide +kernel) hcovers, if_pos rfl]
  rw [@Searcher.result_searchLevels_cons _ _ _ _ _ _
      (fun level => if level = .project then [outerUnit, innerUnit] else []) _ _
      (discover_nested _) (fun unit _ => contained unit) (fun _ _ => rfl)]
  dsimp only
  rw [if_pos (by simp), @Searcher.result_searchLevels_cons _ _ _ _ _ _
      (fun level => if level = .project then [outerUnit, innerUnit] else []) _ _
      (discover_nested _) (fun unit _ => contained unit) (fun _ _ => rfl)]
  simp only [if_true, List.flatMap_cons, List.flatMap_nil, Searcher.unitMatches, houter, hinner,
    Except.toOption, Option.getD_some, List.append_nil, List.cons_append, List.nil_append,
    reduceCtorEq, if_false]
  refine ⟨_, congrArg₂ Prod.mk (congrArg Except.ok ?_) rfl⟩
  simp [firstReports, Match.isFirst, Match.site, Level.name, Searcher.tierRecord,
    Searcher.failureWarnings, houter, hinner, Record.warnedAll, Record.notingAll]

/-- The hypotheses of `declaration_named_by_outermost_unit` are satisfiable: the class in the inner
unit is reported once, under its name from the outer one. -/
theorem declaration_named_by_outermost_unit_nested :
    requestForFoo.root.Proper ∧ ∃ o after,
      ((searcher {} [] Sink.collecting).search nestedTree requestForFoo).result ⟨[], [], []⟩ =
        (.ok o, after) ∧
      o.strategy ≠ "text" ∧ o.results.map Match.name = ["x.setup.Foo"] ∧
      ∃ level units, (searcher {} [] Sink.collecting).AnsweredBy nestedTree requestForFoo o level
        units := by
  have hroot : requestForFoo.root.Proper := by decide +kernel
  obtain ⟨after, hsearch⟩ := search_nested
  obtain ⟨-, level, units, hanswered, -⟩ :=
    (declaration_named_by_outermost_unit hroot).2 _ _ _ hsearch (by decide)
  exact ⟨hroot, _, after, hsearch, by decide, rfl, level, units, hanswered⟩

end Python
end DeclSearch
