/-
# What is still found where reading is refused

Access is refused by the text of a path, once its double dots have been taken out.  Below a root
the names in a regular tree have no double dots, so of two paths there one is refused along with
the other only if they are the same (`Path.normal_descend`).  If reading is refused to files that a
walk has found, nothing else below the root is refused, and a walk from there finds what it found
before (`Tree.walk_withRefused`).
-/

import DeclSearch.Proofs.Candidates

namespace DeclSearch
namespace Workspace

namespace Path

/-- Names without double dots stay as they are. -/
theorem foldDots_of_notMem (anchored : Bool) (done : List String) {names : List String}
    (h : ".." ∉ names) : foldDots anchored done names = done.reverse ++ names := by
  induction names generalizing done with
  | nil => simp [foldDots]
  | cons name names ih =>
    obtain ⟨hname, hnames⟩ := not_or.1 (List.mem_cons.not.1 h)
    rw [foldDots, ih _ hnames]
    · simp
    · exact fun he => hname he.symm

/-- Names without steps upwards stay as they are behind others that are folded. -/
theorem foldDots_append (anchored : Bool) (done front : List String) {names : List String}
    (h : ".." ∉ names) :
    foldDots anchored done (front ++ names) = foldDots anchored done front ++ names := by
  fun_induction foldDots anchored done front with
  | case1 done => rw [List.nil_append, foldDots_of_notMem anchored done h]
  | case2 rest ih => rwa [List.cons_append, foldDots]
  | case3 above rest ih => rwa [List.cons_append, foldDots]
  | case4 rest above done hname ih =>
    rw [List.cons_append, foldDots, ih]
    exact hname
  | case5 done name rest hname ih =>
    rw [List.cons_append, foldDots, ih]
    exact hname

/-- **The names below a root are left alone** when its path is normalised. -/
theorem normal_descend (root : Path) {names : List String} (h : ".." ∉ names) :
    (root.descend names).normal = root.normal.descend names := by
  rw [normal, descend, normal, descend, foldDots_append _ _ _ h]

end Path

namespace Tree

variable {t : Tree} {q : Quest} {limit : Nat} {root : Path} {paths : List Path}

/-- A tree in which access to some more paths is refused. -/
def withRefused (t : Tree) (paths : List Path) : Tree :=
  { t with refused := paths.map Path.normal ++ t.refused }

/-- What is at a place does not depend on the paths that are refused. -/
theorem at?_withRefused (t : Tree) (paths : List Path) (names : List String) :
    (t.withRefused paths).at? names = t.at? names := rfl

/-- The folders without rights do not depend on the paths that are refused. -/
theorem isLocked_withRefused (t : Tree) (paths : List Path) (names : List String) :
    (t.withRefused paths).isLocked names = t.isLocked names := rfl

/-- One step of a path leads where it led before any paths were refused. -/
theorem resolveVia_withRefused (t : Tree) (paths : List Path)
    (onLink : List String → List String → Except Fault Place) (dir names : List String) :
    (t.withRefused paths).resolveVia onLink dir names = t.resolveVia onLink dir names := by
  induction names generalizing dir with
  | nil => rw [resolveVia, resolveVia, at?_withRefused]
  | cons name names ih => simp only [resolveVia, at?_withRefused, isLocked_withRefused, ih]

/-- From any folder a path leads where it led before any paths were refused. -/
theorem resolveFrom_withRefused (t : Tree) (paths : List Path) (links : Nat) :
    (t.withRefused paths).resolveFrom links = t.resolveFrom links := by
  induction links with
  | zero => exact funext fun dir => funext (resolveVia_withRefused t paths _ dir)
  | succ links ih =>
    rw [resolveFrom, resolveFrom, ih]
    exact funext fun dir => funext (resolveVia_withRefused t paths _ dir)

/-- Where a path leads is not decided by what is refused. -/
theorem resolveWithin_withRefused (t : Tree) (paths : List Path) (limit : Nat) (p : Path) :
    (t.withRefused paths).resolveWithin limit p = t.resolveWithin limit p := by
  rw [resolveWithin, resolveWithin, resolveFrom_withRefused]

/-- A folder is listed as before by a path to which access is refused as before. -/
theorem listWithin_withRefused {p : Path} (h : (t.withRefused paths).refuses p = t.refuses p) :
    (t.withRefused paths).listWithin limit p = t.listWithin limit p := by
  unfold listWithin
  dsimp only
  rw [h, resolveWithin_withRefused]
  rfl

/-- The names that lead to what a walk finds: they go through folders, to what is none. -/
theorem exists_names_of_mem_walk {p : Path} (h : p ∈ t.walk root q) :
    ∃ dir entries names, t.list root = .ok (dir, entries) ∧ p = root.descend names ∧
      names ≠ [] ∧ ".." ∉ names ∧
      ∀ front inner, t.at? (dir ++ front) = some (.folder inner) → front ≠ names := by
  obtain ⟨dir, entries, names, hlist, hfinds, rfl⟩ := mem_walk_iff.1 h
  obtain ⟨folders, name, inner, rfl, -, hinner⟩ := exists_of_finds hfinds
  obtain ⟨-, hcounts, -⟩ := (finds_append_iff (List.cons_ne_nil name [])).1 hfinds
  obtain ⟨e, hat, hfolder⟩ :
      ∃ e, t.at? (dir ++ (folders ++ [name])) = some e ∧ ∀ entries, e ≠ .folder entries := by
    rw [← List.append_assoc]
    unfold countsAsFile at hcounts
    split at hcounts
    · next hat => exact ⟨_, hat, nofun⟩
    · next hat => exact ⟨_, hat, nofun⟩
    · exact nomatch hcounts
  refine ⟨dir, entries, folders ++ [name], hlist, rfl, by simp, fun hdots => ?_, ?_⟩
  · exact absurd rfl (isEntryName_iff.1 (isEntryName_of_at? hat ".." hdots)).2.1
  · rintro front inner' hfront rfl
    exact hfolder inner' (Option.some.inj (hat.symm.trans hfront))

section

variable (hpaths : ∀ p ∈ paths, p ∈ t.walk root q)

include hpaths

/-- Below the root nothing is refused but what was, and the files themselves. -/
theorem refuses_withRefused_iff {names : List String} (hnames : ".." ∉ names) :
    (t.withRefused paths).refuses (root.descend names) ↔
      t.refuses (root.descend names) ∨ root.descend names ∈ paths := by
  have hsame : (root.descend names).normal ∈ paths.map Path.normal ↔
      root.descend names ∈ paths := by
    constructor
    · intro h
      obtain ⟨p, hp, hnormal⟩ := List.mem_map.1 h
      obtain ⟨-, -, others, -, rfl, -, hothers, -⟩ := exists_names_of_mem_walk (hpaths p hp)
      rw [Path.normal_descend root hnames, Path.normal_descend root hothers] at hnormal
      rwa [← Path.descend_injective hnormal]
    · exact List.mem_map_of_mem
  simp only [refuses, withRefused, List.contains_eq_mem, decide_eq_true_eq, List.mem_append, hsame]
  exact or_comm

/-- A path that is written without steps upwards is refused as before if it is not among those that
are refused now. -/
theorem refuses_withRefused_of_notMem {names : List String} (hnames : ".." ∉ names)
    (h : root.descend names ∉ paths) :
    (t.withRefused paths).refuses (root.descend names) = t.refuses (root.descend names) := by
  rw [Bool.eq_iff_iff, refuses_withRefused_iff hpaths hnames, or_iff_left h]

/-- The root itself is listed as before. -/
theorem list_withRefused : (t.withRefused paths).list root = t.list root := by
  have hroot : root.descend [] ∉ paths := by
    intro h
    obtain ⟨-, -, names, -, hnames, hne, -⟩ := exists_names_of_mem_walk (hpaths _ h)
    exact hne (Path.descend_injective hnames).symm
  have hrefuses := refuses_withRefused_of_notMem hpaths (List.not_mem_nil) hroot
  rw [Path.descend_nil] at hrefuses
  exact listWithin_withRefused hrefuses

/-- The folders that a walk goes through stay open. -/
theorem enters_withRefused_iff {other : Quest} {dir folders : List String}
    {top inner : List (String × Entry)} (hlist : t.list root = .ok (dir, top))
    (hinner : t.at? (dir ++ folders) = some (.folder inner)) :
    (t.withRefused paths).Enters other limit root folders ↔ t.Enters other limit root folders := by
  rw [enters_iff, enters_iff]
  refine forall_congr' fun front => forall_congr' fun name => forall_congr' fun back =>
    imp_congr_right fun hsplit => and_congr_right fun _ => ?_
  have hfolder : dir ++ folders = dir ++ (front ++ [name]) ++ back := by simp [hsplit]
  obtain ⟨entries, hentries⟩ := exists_folder_of_at?_append (hfolder ▸ hinner)
  have hdots : ".." ∉ front ++ [name] := fun h =>
    absurd rfl (isEntryName_iff.1 (isEntryName_of_at? hentries ".." h)).2.1
  have hnot : root.descend (front ++ [name]) ∉ paths := by
    intro h
    obtain ⟨dir', _, names, hlist', hnames, -, -, hno⟩ := exists_names_of_mem_walk (hpaths _ h)
    obtain ⟨rfl, -⟩ := Prod.mk.inj (Except.ok.inj (hlist.symm.trans hlist'))
    exact hno _ _ hentries (Path.descend_injective hnames)
  rw [Path.descend_child, isClosed, isClosed,
    listWithin_withRefused (refuses_withRefused_of_notMem hpaths hdots hnot)]

/-- **A walk still finds files that cannot be read.** -/
theorem walk_withRefused (other : Quest) :
    (t.withRefused paths).walk root other = t.walk root other := by
  refine Path.eq_of_pairwise_foundBefore (pairwise_walk root other) (pairwise_walk root other)
    fun p => ?_
  rw [mem_walk_iff, mem_walk_iff, list_withRefused hpaths]
  refine exists_congr fun dir => exists_congr fun top => exists_congr fun names =>
    and_congr_right fun hlist => and_congr_left fun _ => ?_
  -- Both walks need the names to lead to a folder first.
  have hsplit {folders : List String} {name : String} {inner : List (String × Entry)}
      (hinner : t.at? (dir ++ folders) = some (.folder inner)) :
      (t.withRefused paths).Finds other (walkLimit root) dir root (folders ++ [name]) ↔
        t.Finds other (walkLimit root) dir root (folders ++ [name]) := by
    rw [finds_append_iff (List.cons_ne_nil name []), finds_append_iff (List.cons_ne_nil name []),
      enters_withRefused_iff hpaths hlist hinner]
    have hcounts (limit : Nat) (folder : List String) (path : Path) :
        (t.withRefused paths).countsAsFile limit folder path name =
          t.countsAsFile limit folder path name := by
      rw [countsAsFile, countsAsFile, at?_withRefused, leadsToFile, leadsToFile,
        resolveWithin_withRefused]
    simp only [Finds, hcounts]
  constructor
  · intro hfinds
    obtain ⟨folders, name, inner, rfl, -, hinner⟩ := exists_of_finds hfinds
    exact (hsplit hinner).1 hfinds
  · intro hfinds
    obtain ⟨folders, name, inner, rfl, -, hinner⟩ := exists_of_finds hfinds
    exact (hsplit hinner).2 hfinds

/-- What is read below the root is what it was, except for the files that cannot be read. -/
theorem read_withRefused_of_notMem {names : List String} (hnames : ".." ∉ names)
    (h : root.descend names ∉ paths) :
    (t.withRefused paths).read (root.descend names) = t.read (root.descend names) := by
  unfold read resolve
  rw [refuses_withRefused_of_notMem hpaths hnames h, resolveWithin_withRefused]
  rfl

end

/-- A path that is refused cannot be read. -/
theorem read_withRefused_of_mem {p : Path} (h : p ∈ paths) :
    (t.withRefused paths).read p = .error ⟨.refused, p.render⟩ := by
  have hrefuses : (t.withRefused paths).refuses p = true := by
    simpa [refuses, withRefused] using .inl ⟨p, h, rfl⟩
  rw [read, if_pos hrefuses]

end Tree
end Workspace
end DeclSearch
