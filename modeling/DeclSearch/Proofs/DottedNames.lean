/-
# Dotted names

A name is well formed as a dotted name if no part between its dots is empty (`Text.IsDotted`).  The
name of a module is made of the names on the way to its file, so it is well formed where these are
parts without dots; of the qualified names each adds one identifier to the name of the module or
that of a symbol in front, and an identifier is not empty and holds no dot, in normal form as well.

Only one file is named after something else.  The `__init__` of a unit's folder, or of the `src`
folder there, leaves nothing of its way, and is named after the last name of the folder's path.
A path need not end in the name of its folder: that of the current directory has no name at all,
and another may end in two dots (`names_are_dotted`, `root_package_has_no_name`).
-/

import DeclSearch.Proofs.DeclaringNodes
import DeclSearch.Proofs.Walking

namespace DeclSearch
namespace Text

/-- Whether a text is a dotted name: none of its parts between dots is empty. -/
def IsDotted (s : String) : Prop := ∀ part ∈ cut '.' s, part ≠ ""

instance (s : String) : Decidable (IsDotted s) :=
  inferInstanceAs (Decidable (∀ part ∈ cut '.' s, part ≠ ""))

/-- Two texts with a dot between them make a dotted name if both of them are one. -/
theorem isDotted_append_iff {s t : String} :
    IsDotted (s ++ "." ++ t) ↔ IsDotted s ∧ IsDotted t := by
  have hcut : cut '.' (s ++ "." ++ t) = cut '.' s ++ cut '.' t := cut_append '.' s t
  rw [IsDotted, hcut]
  exact List.forall_mem_append

/-- The empty text is no dotted name, as its only part is empty. -/
theorem not_isDotted_empty : ¬ IsDotted "" := by decide +kernel

/-- A part of a dotted name is a dotted name. -/
theorem IsComponent.isDotted {s : String} (h : IsComponent s) : IsDotted s := by
  rw [IsDotted, cut_of_notMem h.dot_notMem]
  exact List.forall_mem_singleton.2 h.ne_empty

/-- Parts joined with dots are a dotted name, if there is one at all. -/
theorem isDotted_join {parts : List String} (hne : parts ≠ [])
    (h : ∀ part ∈ parts, IsComponent part) : IsDotted (join "." parts) := by
  have hcut : cut '.' (join "." parts) = parts :=
    cut_join hne fun part hpart => (h part hpart).dot_notMem
  rw [IsDotted, hcut]
  exact fun part hpart => (h part hpart).ne_empty

/-- The last part of a dotted name is not empty. -/
theorem IsDotted.getLastD_cut_ne_empty {s : String} (h : IsDotted s) :
    (cut '.' s).getLastD "" ≠ "" := by
  rw [List.getLastD_eq_getLast?, List.getLast?_eq_some_getLast (cut_ne_nil '.' s)]
  exact h _ (List.getLast_mem _)

/-- **A text is a dotted name** unless it is empty, starts or ends with a dot, or has two dots in a
row. -/
theorem isDotted_iff {s : String} :
    IsDotted s ↔ s ≠ "" ∧ ¬ ['.'] <+: s.toList ∧ ¬ ['.'] <:+ s.toList ∧
      ¬ ['.', '.'] <:+: s.toList := by
  constructor
  · intro h
    refine ⟨?_, ?_, ?_, ?_⟩
    · rintro rfl
      exact not_isDotted_empty h
    · rintro ⟨behind, hs⟩
      have hs : s = "" ++ "." ++ String.ofList behind := by
        rw [← String.toList_inj, ← hs]
        simp
      exact not_isDotted_empty (isDotted_append_iff.1 (hs ▸ h)).1
    · rintro ⟨front, hs⟩
      have hs : s = String.ofList front ++ "." ++ "" := by
        rw [← String.toList_inj, ← hs]
        simp
      exact not_isDotted_empty (isDotted_append_iff.1 (hs ▸ h)).2
    · rintro ⟨front, behind, hs⟩
      have hs : s = (String.ofList front ++ "." ++ "") ++ "." ++ String.ofList behind := by
        rw [← String.toList_inj, ← hs]
        simp
      exact not_isDotted_empty (isDotted_append_iff.1 (isDotted_append_iff.1 (hs ▸ h)).1).2
  · rintro ⟨hne, hfirst, hlast, hinner⟩ part hpart rfl
    obtain ⟨front, back, hcut⟩ := List.append_of_mem hpart
    have hs : s = join "." (front ++ "" :: back) := hcut ▸ (join_cut '.' s).symm
    -- The empty part stands alone, or there is a dot beside it.
    rcases eq_or_ne front [] with rfl | hfront <;> rcases eq_or_ne back [] with rfl | hback
    · exact hne (by simpa [join] using hs)
    · refine hfirst ⟨(join "." back).toList, ?_⟩
      rw [hs, List.nil_append, join, join, String.intercalate_cons_of_ne_nil hback]
      simp
    · refine hlast ⟨(join "." front).toList, ?_⟩
      rw [hs, join, join, String.intercalate_append_of_ne_nil hfront (List.cons_ne_nil _ _)]
      simp
    · refine hinner ⟨(join "." front).toList, (join "." back).toList, ?_⟩
      rw [hs, join, join, join, String.intercalate_append_of_ne_nil hfront (List.cons_ne_nil _ _),
        String.intercalate_cons_of_ne_nil hback]
      simp

end Text

namespace Python

open Text (IsComponent IsDotted isDotted_append_iff)
open Workspace (Path Tree Quest)

/-! ### The names of modules -/

namespace Module

/-- Without the source folder there are no other parts than before. -/
theorem withoutSourceFolder_subset (parts : List String) : withoutSourceFolder parts ⊆ parts := by
  unfold withoutSourceFolder
  split
  · exact List.subset_cons_self _ _
  · exact List.Subset.refl _

/-- Without `__init__` there are no other parts than before. -/
theorem withoutInit_subset (parts : List String) : withoutInit parts ⊆ parts := by
  unfold withoutInit
  split
  · exact List.dropLast_subset _
  · exact List.Subset.refl _

/-- Nothing is left without `__init__` if there was nothing else. -/
theorem withoutInit_eq_nil_iff {parts : List String} :
    withoutInit parts = [] ↔ parts = [] ∨ parts = ["__init__"] := by
  rcases List.eq_nil_or_concat parts with rfl | ⟨front, last, rfl⟩
  · simp [withoutInit]
  · by_cases hlast : last = "__init__"
    · simp [withoutInit, hlast]
    · simp [withoutInit, hlast, List.append_eq_singleton_iff]

/-- What is left without the source folder is `__init__` alone if that stands in the root or in its
source folder. -/
theorem withoutSourceFolder_eq_singleton_iff {folders : List String} {stem : String} :
    withoutSourceFolder (folders ++ [stem]) = ["__init__"] ↔
      stem = "__init__" ∧ (folders = [] ∨ folders = ["src"]) := by
  rcases folders with _ | ⟨first, folders⟩
  · simp [withoutSourceFolder]
  · rcases eq_or_ne first "src" with rfl | hfirst
    · rcases folders with _ | ⟨second, folders⟩ <;> simp [withoutSourceFolder]
    · simp [withoutSourceFolder, hfirst]

/-- Nothing is left of the way to a file only if it is an `__init__` in the folder itself or in the
source folder there. -/
theorem nothing_left_iff {folders : List String} {stem : String} :
    withoutInit (withoutSourceFolder (folders ++ [stem])) = [] ↔
      stem = "__init__" ∧ (folders = [] ∨ folders = ["src"]) := by
  have hne : withoutSourceFolder (folders ++ [stem]) ≠ [] := by
    unfold withoutSourceFolder
    split <;> simp
  rw [withoutInit_eq_nil_iff, or_iff_right hne, withoutSourceFolder_eq_singleton_iff]

/-- A module has a dotted name if the names on the way to its file are parts for one, or if nothing
is left of them and its folder has such a name. -/
theorem isDotted_dottedName_iff {folder : Path} {folders : List String} {stem : String}
    (h : ∀ part ∈ folders ++ [stem], IsComponent part) :
    IsDotted (dottedName folder (folders ++ [stem])) ↔
      (stem = "__init__" ∧ (folders = [] ∨ folders = ["src"]) → IsDotted folder.name) := by
  unfold dottedName
  rw [← nothing_left_iff]
  generalize hleft : withoutInit (withoutSourceFolder (folders ++ [stem])) = left
  have hparts : ∀ part ∈ left, IsComponent part := by
    intro part hpart
    have hsource := withoutInit_subset _ (hleft ▸ hpart)
    exact h part (withoutSourceFolder_subset _ hsource)
  rcases eq_or_ne left [] with rfl | hne
  · simp [Text.join]
  · have hdotted := Text.isDotted_join hne hparts
    split
    · next hempty => exact absurd (hempty ▸ hdotted) Text.not_isDotted_empty
    · exact iff_of_true hdotted fun hnil => absurd hnil hne

end Module

/-! ### The names of symbols -/

variable {excludedDirs : List String} {tree : Tree} {workspace unit : Path} {level : Level}
  {units : List Path} {m : Module} {root : String} {earlier : List Symbol}

/-- **A declared name is an identifier**, and so it is a part for a dotted name. -/
theorem isComponent_of_mem_declaredIn {content : Text.Bytes} {body : List Stmt} {site : Site}
    {s : Symbol} (hbody : statements? content = some body) (hs : s ∈ declaredIn site body) :
    IsComponent s.name := by
  obtain ⟨start, own, -, hown, hpart⟩ := madeIn_of_mem_declaredIn site hs
  obtain ⟨n, hn, hof⟩ : ∃ n ∈ Stmt.nodesOf body, ∀ t : Token, n.Of t →
      ∃ plain, t.word = .name s.name plain := by
    rcases hown with ⟨-, rfl⟩ | ⟨-, rfl⟩
    · exact ⟨.defined s.name, hpart.subset (by simp), fun t ht => ht⟩
    · exact ⟨.name s.name start, hpart.subset (by simp), fun t ht => ht.1⟩
  obtain ⟨t, ht, htoken⟩ := exists_token hbody hn
  obtain ⟨plain, hword⟩ := hof t htoken
  exact (ht.name s.name plain hword).1

/-- Symbols that belong to a module or to symbols in front have dotted names, if the module has and
the symbols in front have. -/
theorem EachPlaced.isDotted {table : List Symbol} (h : EachPlaced root earlier table)
    (hroot : IsDotted root) (hearlier : ∀ s ∈ earlier, IsDotted s.qualifiedName)
    (hnames : ∀ s ∈ table, IsComponent s.name) : ∀ s ∈ table, IsDotted s.qualifiedName := by
  induction table generalizing earlier with
  | nil => simp
  | cons s rest ih =>
    obtain ⟨⟨qualifier, hs⟩, hrest⟩ := h
    obtain ⟨hname, hnames⟩ := List.forall_mem_cons.1 hnames
    have hqualifier : IsDotted qualifier := by
      rcases hs.named with rfl | ⟨t, ht, -, rfl⟩
      · exact hroot
      · exact hearlier t ht
    have hdotted : IsDotted s.qualifiedName := by
      rw [hs.qualified]
      exact isDotted_append_iff.2 ⟨hqualifier, hname.isDotted⟩
    have hearlier : ∀ t ∈ earlier ++ [s], IsDotted t.qualifiedName :=
      List.forall_mem_append.2 ⟨hearlier, List.forall_mem_singleton.2 hdotted⟩
    exact List.forall_mem_cons.2 ⟨hdotted, ih hrest hearlier hnames⟩

/-- **The symbols of a module have names**, and dotted names for qualified names, if the module has
one. -/
theorem Module.isDotted_of_mem_declarations {content : Text.Bytes}
    (hbody : statements? content = some m.body) (hname : IsDotted m.name) {s : Symbol}
    (hs : s ∈ m.declarations) : s.name ≠ "" ∧ IsDotted s.qualifiedName := by
  rcases Module.eq_symbol_or_mem_declaredIn hs with rfl | hs
  · exact ⟨hname.getLastD_cut_ne_empty, hname⟩
  · have hplaced : EachPlaced m.name [] (declaredIn m.site m.body) :=
      eachPlaced_declaredIn m.body m.site [] rfl
    have hnames : ∀ s ∈ declaredIn m.site m.body, IsComponent s.name :=
      fun _ => isComponent_of_mem_declaredIn hbody
    exact ⟨(hnames s hs).ne_empty, hplaced.isDotted hname (by simp) hnames s hs⟩

/-! ### The names in a unit -/

variable {folders : List String} {last : String}

/-- The way from a workspace to a file of a unit goes through the unit's folder. -/
theorem exists_way_of_discover
    (hunits : (backend excludedDirs).discover tree workspace level = .ok units)
    (hunit : unit ∈ units)
    (hbelow : unit.parent.Above (workspace.descend (folders ++ [last]))) :
    ∃ above inner, folders = above ++ inner ∧ unit.parent = workspace.descend above := by
  obtain ⟨-, -, above, -, -, -, -, hparent⟩ :=
    Tree.exists_of_mem_walk (mem_walk_of_discover hunits hunit)
  obtain ⟨names, hfile⟩ := Path.atOrAbove_iff.1 hbelow.1
  have hnames : names ≠ [] := Path.above_descend_iff.1 (hfile ▸ hbelow)
  rw [hparent, Path.descend_descend] at hfile
  have hway : folders ++ [last] = above ++ names.dropLast ++ [names.getLast hnames] := by
    rw [Path.descend_injective hfile, List.append_assoc, List.dropLast_concat_getLast]
  exact ⟨above, names.dropLast, (List.append_inj' hway rfl).1, hparent⟩

/-- **Names are well formed, but for that of a package at the root of the workspace.**  Let a unit
be found in a workspace, and let the folders on the way from there to a source file of the unit have
names without dots, and the file only the dot in front of its suffix.  The file has a name as a
module of the unit.  That is a dotted name, unless nothing is left of the way to the file, which is
an `__init__` in the workspace itself or in its source folder, and the path of the workspace does
not end in a name.  Where it is a dotted name, the symbols of the module have names, and their
qualified names neither start nor end with a dot nor have two dots in a row. -/
theorem names_are_dotted
    (hunits : (backend excludedDirs).discover tree workspace level = .ok units)
    (hunit : unit ∈ units)
    (hbelow : unit.parent.Above (workspace.descend (folders ++ [last])))
    (hfolders : ∀ name ∈ folders, IsComponent name)
    (hstem : IsComponent (Path.splitSuffix last).1) :
    ∃ name, Module.nameOf unit.parent (workspace.descend (folders ++ [last])) = .ok name ∧
      (IsDotted name ↔
        (unit.parent = workspace ∧ (Path.splitSuffix last).1 = "__init__" ∧
          (folders = [] ∨ folders = ["src"]) → IsDotted workspace.name)) ∧
      (IsDotted name → ∀ p, Project.compile excludedDirs tree unit = .ok p → ∀ m ∈ p.modules,
        m.path = workspace.descend (folders ++ [last]) → m.name = name ∧
          ∀ s ∈ m.declarations, s.name ≠ "" ∧ s.qualifiedName ≠ "" ∧
            ¬ ['.'] <+: s.qualifiedName.toList ∧ ¬ ['.'] <:+ s.qualifiedName.toList ∧
              ¬ ['.', '.'] <:+: s.qualifiedName.toList) := by
  obtain ⟨above, inner, rfl, hparent⟩ := exists_way_of_discover hunits hunit hbelow
  obtain ⟨habove, hinner⟩ := List.forall_mem_append.1 hfolders
  have hparts : ∀ part ∈ inner ++ [(Path.splitSuffix last).1], IsComponent part :=
    List.forall_mem_append.2 ⟨hinner, List.forall_mem_singleton.2 hstem⟩
  have hname : Module.nameOf unit.parent (workspace.descend (above ++ inner ++ [last])) =
      .ok (Module.dottedName unit.parent (inner ++ [(Path.splitSuffix last).1])) := by
    rw [← Module.nameOf_descend, hparent, Path.descend_descend, List.append_assoc]
  refine ⟨_, hname, ?_, fun hdotted p hp m hm hpath => ?_⟩
  · rw [Module.isDotted_dottedName_iff hparts, hparent]
    -- The folder of a unit further down ends in a name of its own.
    rcases List.eq_nil_or_concat above with rfl | ⟨front, own, rfl⟩
    · simp
    · have hown : IsDotted (workspace.descend (front.concat own)).name := by
        have hcomponent := habove own (by simp)
        simpa [Path.name, Path.descend] using hcomponent.isDotted
      have hother : workspace.descend (front.concat own) ≠ workspace := by
        intro heq
        have hnil := Path.descend_injective (heq.trans (Path.descend_nil workspace).symm)
        simp at hnil
      exact iff_of_true (fun _ => hown) fun h => absurd h.1 hother
  · obtain ⟨-, content, -, hbody, hown, -⟩ := (Project.mem_modules_iff hp).1 hm
    rw [hpath, hname] at hown
    have hmodule := (Except.ok.inj hown).symm
    refine ⟨hmodule, fun s hs => ?_⟩
    obtain ⟨hne, hqualified⟩ :=
      Module.isDotted_of_mem_declarations hbody (hmodule ▸ hdotted) hs
    exact ⟨hne, Text.isDotted_iff.1 hqualified⟩

/-- The hypotheses of `names_are_dotted` are satisfiable: the module is called `m`. -/
theorem names_are_dotted_classAndUse :
    (backend []).discover (loneModule classAndUse) .here .solution = .ok [loneUnit] ∧
      loneUnit.parent.Above (Path.here.descend ([] ++ ["m.py"])) ∧
      IsComponent (Path.splitSuffix "m.py").1 ∧
      ∃ name, Module.nameOf loneUnit.parent (Path.here.descend ([] ++ ["m.py"])) = .ok name ∧
        IsDotted name := by
  have hbelow : loneUnit.parent.Above (Path.here.descend ([] ++ ["m.py"])) := by decide +kernel
  have hstem : IsComponent (Path.splitSuffix "m.py").1 := by
    constructor <;> decide +kernel
  have hinit : (Path.splitSuffix "m.py").1 ≠ "__init__" := by decide +kernel
  obtain ⟨name, hname, hdotted, -⟩ := names_are_dotted (discover_loneModule classAndUse)
    (List.mem_singleton_self _) hbelow (by simp) hstem
  exact ⟨discover_loneModule _, hbelow, hstem, name, hname,
    hdotted.2 fun h => absurd h.2.1 hinit⟩

/-- A package that declares a class. -/
def classInPackage : Text.Bytes := Text.bytesOf "class A: pass\n".toList

/-- A workspace that is a package. -/
def packageAlone : Workspace.Tree := loneSource "__init__.py" classInPackage (by decide +kernel)

/-- **A package in the current directory has no name**: its symbol is nameless, and the qualified
name of its class starts with a dot. -/
theorem root_package_has_no_name :
    (backend []).discover packageAlone .here .solution = .ok [loneUnit] ∧
      ∃ p, (backend []).compile packageAlone loneUnit = .ok p ∧
        p.symbols = [⟨"", "", "package", ⟨"__init__.py", 1, 0⟩, [], []⟩,
          ⟨"A", ".A", "class", ⟨"__init__.py", 1, 0⟩, [], []⟩] := by
  have hsorted : "__init__.py" ≤ "pyproject.toml" := by decide +kernel
  constructor
  · unfold backend
    simp only [Profile.discover, packageAlone, walk_loneSource hsorted]
    decide +kernel
  · have hparsed : (statements? classInPackage).map (fun body =>
        Module.declarations ⟨⟨.relative, ["__init__.py"]⟩, "", body, classInPackage.isEmpty⟩) =
          some [⟨"", "", "package", ⟨"__init__.py", 1, 0⟩, [], []⟩,
            ⟨"A", ".A", "class", ⟨"__init__.py", 1, 0⟩, [], []⟩] := by
      decide +kernel
    obtain ⟨body, hbody, hdeclarations⟩ := Option.map_eq_some_iff.1 hparsed
    have hname : Module.nameOf .here ⟨.relative, ["__init__.py"]⟩ = .ok "" := by decide +kernel
    obtain ⟨p, hp, hmodules⟩ :=
      compile_loneSource hsorted (by decide +kernel) rfl rfl hname hbody
    refine ⟨p, hp, ?_⟩
    rw [Project.symbols_of_compile hp, hmodules, List.flatMap_singleton, hdeclarations]

end Python
end DeclSearch
