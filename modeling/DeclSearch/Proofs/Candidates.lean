/-
# The candidate files below a root

What a walk finds, said of the tree alone (`Tree.IsCandidate`): the root can be listed, however it
leads to a folder; each folder on the way down is one itself and no link, has no excluded name and
can be listed; and the last name stands for a file or for a link that leads to one, and ends in one
of the extensions once both are in lower case.

The files are found once each and in the order of their names (`walk_files_is_exact`).  There is
only one list like that.  What a walk needs to end is that its root can be asked for at all: a root
that holds a NUL is turned down before anything is listed.
-/

import DeclSearch.Proofs.WalkOrder

namespace DeclSearch
namespace Workspace
namespace Tree

variable {t : Tree} {q : Quest} {limit : Nat} {dir : List String} {root path : Path}
  {extensions excluded : List String}

/-- Whether a walk goes on into what `name` stands for in the folder at `dir`, which is reached as
`path`: a folder and no link, which is not excluded by its name and can be listed. -/
structure IsPassable (t : Tree) (excluded : List String) (limit : Nat) (dir : List String)
    (path : Path) (name : String) : Prop where
  folder : ∃ entries, t.at? (dir ++ [name]) = some (.folder entries)
  included : name ∉ excluded
  listable : ∃ listing, t.listWithin limit (path.child name) = .ok listing

/-- Whether `name` stands for a file in the folder at `dir`, which is reached as `path`, or for a
link that leads to one. -/
def IsFile (t : Tree) (limit : Nat) (dir : List String) (path : Path) (name : String) : Prop :=
  (∃ content, t.at? (dir ++ [name]) = some (.file content)) ∨
    ∃ target place content, t.at? (dir ++ [name]) = some (.link target) ∧
      t.resolveWithin limit (path.child name) = .ok ⟨place, .file content⟩

/-- Whether a path is one of the files below a root that are looked for. -/
def IsCandidate (t : Tree) (root : Path) (extensions excluded : List String) (p : Path) : Prop :=
  ∃ dir entries folders name, t.list root = .ok (dir, entries) ∧
    p = root.descend (folders ++ [name]) ∧
    (∀ front folder back, folders = front ++ folder :: back →
      t.IsPassable excluded (walkLimit root) (dir ++ front) (root.descend front) folder) ∧
    t.IsFile (walkLimit root) (dir ++ folders) (root.descend folders) name ∧
    ∃ ext ∈ extensions, (Text.lower ext).toList <:+ (Text.lower name).toList

/-- A name is wanted if it ends in one of the extensions, whatever the case. -/
theorem wants_of_iff {name : String} :
    (Quest.of extensions excluded).wants name ↔
      ∃ ext ∈ extensions, (Text.lower ext).toList <:+ (Text.lower name).toList := by
  simp [Quest.wants, Quest.of, Text.lower]

/-- A name counts as a file if a file is there, or a link that leads to one. -/
theorem countsAsFile_iff {name : String} :
    t.countsAsFile limit dir path name ↔ t.IsFile limit dir path name := by
  unfold countsAsFile IsFile leadsToFile
  rcases t.at? (dir ++ [name]) with _ | content | entries | target
  · simp
  · simp
  · simp
  · rcases t.resolveWithin limit (path.child name) with
      fault | ⟨place, content | entries | target⟩ <;> simp

/-- A walk enters folders if none of their names is excluded and each of them can be listed. -/
theorem enters_iff {names : List String} :
    t.Enters q limit path names ↔ ∀ front name back, names = front ++ name :: back →
      q.excluded.contains name = false ∧
        t.isClosed limit ((path.descend front).child name) = false := by
  induction names generalizing path with
  | nil => simp [Enters]
  | cons first names ih =>
    rw [Enters, ih]
    constructor
    · rintro ⟨hfirst, hnames⟩ front name back hsplit
      rcases front with _ | ⟨_, front⟩
      · obtain ⟨rfl, -⟩ := List.cons.inj hsplit
        simpa using hfirst
      · obtain ⟨rfl, hrest⟩ := List.cons.inj hsplit
        simpa using hnames front name back hrest
    · intro h
      refine ⟨by simpa using h [] first names rfl, fun front name back hsplit => ?_⟩
      simpa using h (first :: front) name back (by rw [hsplit, List.cons_append])

/-- **What a walk finds is the candidates below its root.** A walk goes down from name to name, and
a candidate is told by its whole path: the folders that the walk enters are those that lie in front
of the candidate's name (`enters_iff`). -/
theorem mem_walk_iff_isCandidate {p : Path} :
    p ∈ t.walk root (Quest.of extensions excluded) ↔ t.IsCandidate root extensions excluded p := by
  rw [mem_walk_iff]
  constructor
  · rintro ⟨dir, top, names, hlist, hfinds, rfl⟩
    obtain ⟨folders, name, inner, rfl, henters, hinner⟩ := exists_of_finds hfinds
    obtain ⟨-, hcounts, hwants⟩ := (finds_append_iff (List.cons_ne_nil name [])).1 hfinds
    refine ⟨dir, top, folders, name, hlist, rfl, ?_, countsAsFile_iff.1 hcounts,
      wants_of_iff.1 hwants⟩
    rintro front folder back rfl
    obtain ⟨hincluded, hopen⟩ := enters_iff.1 henters front folder back rfl
    have hsplit : dir ++ (front ++ folder :: back) = dir ++ front ++ [folder] ++ back := by simp
    obtain ⟨entries, hentries⟩ := exists_folder_of_at?_append (hsplit ▸ hinner)
    exact ⟨⟨entries, hentries⟩, by simpa [Quest.of] using hincluded,
      isClosed_eq_false_iff.1 hopen⟩
  · rintro ⟨dir, top, folders, name, hlist, rfl, hfolders, hfile, hwanted⟩
    refine ⟨dir, top, folders ++ [name], hlist, ?_, rfl⟩
    refine (finds_append_iff (List.cons_ne_nil name [])).2
      ⟨enters_iff.2 fun front folder back hsplit => ?_, countsAsFile_iff.2 hfile,
        wants_of_iff.2 hwanted⟩
    obtain ⟨-, hincluded, hlisted⟩ := hfolders front folder back hsplit
    exact ⟨by simpa [Quest.of] using hincluded, isClosed_eq_false_iff.2 hlisted⟩

/-- **A walk finds exactly the candidates, once each and in a fixed order.** -/
theorem walk_files_is_exact (root : Path) (hroot : root.hasNul = false)
    (extensions excluded : List String) :
    ∃ files, t.walkFiles root (Quest.of extensions excluded) = .ok files ∧
      (∀ p, p ∈ files ↔ t.IsCandidate root extensions excluded p) ∧
      files.Nodup ∧
      files.Pairwise root.FoundBefore := by
  have hwalk : t.walkFiles root (Quest.of extensions excluded) =
      .ok (t.walk root (Quest.of extensions excluded)) := by
    rw [walkFiles, Path.checkNul, hroot]
    rfl
  exact ⟨_, hwalk, fun _ => mem_walk_iff_isCandidate, nodup_walk root _,
    pairwise_walk root _⟩

/-- A folder with a file, a folder that holds one, a link to a file and one to the folder. -/
def linkedTree : Tree where
  top := [("a.py", .file []), ("d", .folder [("b.PY", .file [])]), ("e.py", .link "d/b.PY"),
    ("f.py", .link "d")]
  regular := by decide +kernel

/-- The hypotheses of `walk_files_is_exact` are satisfiable: from the folder of `linkedTree`, where
nothing is excluded. -/
theorem walk_files_is_exact_linkedTree :
    Path.here.hasNul = false ∧
      ∃ files, linkedTree.walkFiles .here (Quest.of [".py"] []) = .ok files ∧
        (∀ p, p ∈ files ↔ linkedTree.IsCandidate .here [".py"] [] p) ∧
        files.Nodup ∧
        files.Pairwise Path.here.FoundBefore :=
  ⟨by decide +kernel, walk_files_is_exact .here (by decide +kernel) [".py"] []⟩

/-- **A root that holds a NUL** is not passed over as one that cannot be listed: the walk fails. -/
theorem walk_files_fails_for_nul :
    ¬ ∀ (t : Tree) (root : Path) (extensions excluded : List String),
      ∃ files, t.walkFiles root (Quest.of extensions excluded) = .ok files ∧
        (∀ p, p ∈ files ↔ t.IsCandidate root extensions excluded p) ∧
        files.Nodup ∧
        files.Pairwise root.FoundBefore := by
  intro h
  have hfails : Tree.empty.walkFiles (Path.ofString "a\x00b") (Quest.of [".py"] []) =
      .error ⟨.nulInPath, "a\x00b"⟩ := by decide +kernel
  obtain ⟨files, hfiles, -⟩ := h .empty (Path.ofString "a\x00b") [".py"] []
  rw [hfails] at hfiles
  exact nomatch hfiles

end Tree
end Workspace
end DeclSearch
