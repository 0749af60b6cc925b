/-
# The order of a walk

In every folder a walk goes through the files before the folders, and through the entries of one
kind by name.  No two entries share a name, so of two files that a walk has found the names at
which their paths part say which one comes first (`Path.FoundBefore`, `Tree.pairwise_walk`): a file
stands before all that lies in a folder beside it, and apart from that the smaller name comes
first.  Nothing is found twice, and what lies in a directory is found before what lies deeper in it
(`Path.FoundBefore.mayPrecede`).

With what a walk finds this is all there is to say of it: `walk_files_is_exact` lists the
candidates below a root by what they are in the tree, and their order by their names.
-/

import DeclSearch.Proofs.Walking
import Mathlib.Data.List.Nodup

namespace DeclSearch
namespace Workspace

/-- The order of a walk, on the names that lead from its root to what it finds.  They part at the
first name in which they differ. -/
inductive FoundBefore : List String → List String → Prop
  | fileFirst {file folder next : String} {rest : List String} (part : file ≠ folder) :
      FoundBefore [file] (folder :: next :: rest)
  | files {name other : String} (part : name < other) : FoundBefore [name] [other]
  | folders {name other next following : String} {rest others : List String}
      (part : name < other) : FoundBefore (name :: next :: rest) (other :: following :: others)
  | within {names others : List String} (name : String) (inner : FoundBefore names others) :
      FoundBefore (name :: names) (name :: others)

/-- What is found before or behind something is reached by names. -/
theorem FoundBefore.ne_nil {names others : List String} (h : FoundBefore names others) :
    names ≠ [] ∧ others ≠ [] := by
  cases h <;> exact ⟨List.cons_ne_nil _ _, List.cons_ne_nil _ _⟩

/-- Nothing is found before itself. -/
theorem FoundBefore.ne {names others : List String} (h : FoundBefore names others) :
    names ≠ others := by
  induction h with
  | fileFirst part => simp
  | files part => exact fun he => absurd (List.cons.inj he).1 (String.ne_of_lt part)
  | folders part => exact fun he => absurd (List.cons.inj he).1 (String.ne_of_lt part)
  | within name inner ih => exact fun he => ih (List.cons.inj he).2

/-- Of two paths only one is found before the other. -/
theorem FoundBefore.asymm {names others : List String} (h : FoundBefore names others) :
    ¬ FoundBefore others names := by
  induction h with
  | fileFirst part =>
    rintro (_ | _ | _ | ⟨_, inner⟩)
    exact part rfl
  | files part =>
    rintro (_ | back | _ | ⟨_, inner⟩)
    · exact String.lt_asymm part back
    · exact String.lt_irrefl _ part
  | folders part =>
    rintro (_ | _ | back | ⟨_, inner⟩)
    · exact String.lt_asymm part back
    · exact String.lt_irrefl _ part
  | within name inner ih =>
    rintro (differ | back | back | ⟨_, back⟩)
    · exact differ rfl
    · exact String.lt_irrefl _ back
    · exact String.lt_irrefl _ back
    · exact ih back

/-- What comes first does not lie in a folder below that of the other. -/
theorem FoundBefore.not_deeper {names others : List String} (h : FoundBefore names others)
    {more : List String} (hmore : more ≠ []) : others.dropLast ++ more ≠ names.dropLast := by
  induction h with
  | fileFirst part => simp
  | files part => simpa using hmore
  | folders part => exact fun he => absurd (List.cons.inj he).1.symm (String.ne_of_lt part)
  | @within names others name inner ih =>
    intro he
    cases inner <;> simp_all

namespace Path

/-- Whether of two paths below a root the first stands before the other one in a walk. -/
def FoundBefore (root p other : Path) : Prop :=
  ∃ names others, p = root.descend names ∧ other = root.descend others ∧
    Workspace.FoundBefore names others

/-- Whether a path may be found before another one: they differ, and it does not lie in a folder
below that of the other. -/
def MayPrecede (p other : Path) : Prop := p ≠ other ∧ ¬ other.parent.Above p.parent

/-- Nothing is found before itself. -/
theorem FoundBefore.ne {root p other : Path} (h : root.FoundBefore p other) : p ≠ other := by
  obtain ⟨names, others, rfl, rfl, hnames⟩ := h
  exact fun he => hnames.ne (descend_injective he)

/-- Of two paths only one is found before the other. -/
theorem FoundBefore.asymm {root p other : Path} (h : root.FoundBefore p other) :
    ¬ root.FoundBefore other p := by
  obtain ⟨names, others, rfl, rfl, hnames⟩ := h
  rintro ⟨others', names', hothers, hnames', hback⟩
  obtain rfl := descend_injective hothers
  obtain rfl := descend_injective hnames'
  exact hnames.asymm hback

/-- **The order leaves no choice**: paths below a root can be put into it in one way only, since of
two paths at most one is found before the other. -/
theorem eq_of_pairwise_foundBefore {root : Path} {paths others : List Path}
    (hpaths : paths.Pairwise root.FoundBefore) (hothers : others.Pairwise root.FoundBefore)
    (hmem : ∀ p, p ∈ paths ↔ p ∈ others) : paths = others := by
  have hperm : paths.Perm others :=
    (List.perm_ext_iff_of_nodup (hpaths.imp FoundBefore.ne) (hothers.imp FoundBefore.ne)).2 hmem
  exact List.Perm.eq_of_pairwise (fun _ _ _ _ h hback => absurd hback h.asymm) hpaths hothers hperm

/-- What is found in order below a child is found in order below its folder. -/
theorem FoundBefore.of_child {root p other : Path} {name : String}
    (h : (root.child name).FoundBefore p other) : root.FoundBefore p other := by
  obtain ⟨names, others, rfl, rfl, hnames⟩ := h
  exact ⟨name :: names, name :: others, child_descend .., child_descend .., .within name hnames⟩

/-- The folder of what names lead to is what all but the last of them lead to. -/
theorem parent_descend (p : Path) {names : List String} (h : names ≠ []) :
    (p.descend names).parent = p.descend names.dropLast := by
  rw [← List.dropLast_concat_getLast h, parent_descend_append, List.dropLast_concat]

/-- What is found before something differs from it, and lies in no folder below the folder of
that. -/
theorem FoundBefore.mayPrecede {root p other : Path} (h : root.FoundBefore p other) :
    p.MayPrecede other := by
  refine ⟨h.ne, ?_⟩
  obtain ⟨names, others, rfl, rfl, hnames⟩ := h
  rw [parent_descend _ hnames.ne_nil.1, parent_descend _ hnames.ne_nil.2]
  rintro ⟨habove, hne⟩
  obtain ⟨more, hmore⟩ := atOrAbove_iff.1 habove
  rw [descend_descend] at hmore
  have hnil : more ≠ [] := by
    rintro rfl
    exact hne (by rw [hmore, List.append_nil])
  exact hnames.not_deeper hnil (descend_injective hmore).symm

end Path

/-- The branches of a walk in the order in which it goes through them. -/
def inOrder (branches : List Branch) : List Branch :=
  let sorted := branches.mergeSort fun a b => decide (a.name ≤ b.name)
  sorted.filter (!·.isFolder) ++ sorted.filter (·.isFolder)

/-- Whether a walk goes through one entry of a folder before another one. -/
def Branch.Before (a b : Branch) : Prop :=
  (a.isFolder = false ∧ b.isFolder = true ∧ a.name ≠ b.name) ∨
    (a.isFolder = b.isFolder ∧ a.name < b.name)

/-- Putting the branches in order loses none of them. -/
theorem inOrder_perm (branches : List Branch) : (inOrder branches).Perm branches := by
  have hsorted : (branches.mergeSort fun a b => decide (a.name ≤ b.name)).Perm branches :=
    List.mergeSort_perm _ _
  have hparts := List.filter_append_perm (fun b : Branch => !b.isFolder)
    (branches.mergeSort fun a b => decide (a.name ≤ b.name))
  simp only [Bool.not_not] at hparts
  exact hparts.trans hsorted

/-- Entries that have been sorted stand in the order of their names, if these differ. -/
theorem pairwise_mergeSort_name {branches : List Branch}
    (hnames : (branches.map Branch.name).Nodup) :
    (branches.mergeSort fun a b => decide (a.name ≤ b.name)).Pairwise
      fun a b => a.name < b.name := by
  have htrans (a b c : Branch) (hab : decide (a.name ≤ b.name) = true)
      (hbc : decide (b.name ≤ c.name) = true) : decide (a.name ≤ c.name) = true := by
    simp only [decide_eq_true_eq] at hab hbc ⊢
    exact String.le_trans hab hbc
  have htotal (a b : Branch) : (decide (a.name ≤ b.name) || decide (b.name ≤ a.name)) = true := by
    simpa using String.le_total a.name b.name
  have hle := List.pairwise_mergeSort htrans htotal branches
  have hperm : (branches.mergeSort fun a b => decide (a.name ≤ b.name)).Perm branches :=
    List.mergeSort_perm _ _
  have hne := List.pairwise_map.1 ((hperm.map Branch.name).nodup_iff.2 hnames)
  refine (hle.and hne).imp fun {a b} ⟨hab, hdiffer⟩ => ?_
  have hle : a.name ≤ b.name := by simpa using hab
  exact String.not_le.1 fun hback => hdiffer (String.le_antisymm hle hback)

/-- **The order in a folder.** -/
theorem pairwise_inOrder {branches : List Branch} (hnames : (branches.map Branch.name).Nodup) :
    (inOrder branches).Pairwise Branch.Before := by
  have hsorted := pairwise_mergeSort_name hnames
  have hdistinct : ((inOrder branches).map Branch.name).Nodup :=
    ((inOrder_perm branches).map Branch.name).nodup_iff.2 hnames
  rw [inOrder, List.map_append, List.nodup_append] at hdistinct
  refine List.pairwise_append.2 ⟨?_, ?_, ?_⟩
  · refine (hsorted.filter _).imp_of_mem fun {a b} ha hb hab => .inr ⟨?_, hab⟩
    have hfile := (List.mem_filter.1 ha).2
    have hother := (List.mem_filter.1 hb).2
    simp_all
  · refine (hsorted.filter _).imp_of_mem fun {a b} ha hb hab => .inr ⟨?_, hab⟩
    rw [(List.mem_filter.1 ha).2, (List.mem_filter.1 hb).2]
  · intro a ha b hb
    have hname := hdistinct.2.2 a.name (List.mem_map_of_mem ha) b.name (List.mem_map_of_mem hb)
    exact .inl ⟨by simpa using (List.mem_filter.1 ha).2, (List.mem_filter.1 hb).2, hname⟩

/-- Where a branch of a walk that has come to a folder as `path` lies: a file at its name, and what
a folder has behind its name. -/
def Branch.LiesIn (path : Path) (b : Branch) : Prop :=
  ∀ p ∈ b.paths, ∃ rest, p = path.descend (b.name :: rest) ∧ (b.isFolder = false ↔ rest = [])

/-- What two branches of a folder have found stands in their order. -/
theorem foundBefore_of_before {path : Path} {a b : Branch} (h : a.Before b) (ha : a.LiesIn path)
    (hb : b.LiesIn path) : ∀ x ∈ a.paths, ∀ y ∈ b.paths, path.FoundBefore x y := by
  intro x hx y hy
  obtain ⟨rest, rfl, hrest⟩ := ha x hx
  obtain ⟨others, rfl, hothers⟩ := hb y hy
  refine ⟨_, _, rfl, rfl, ?_⟩
  rcases h with ⟨hfile, hfolder, hname⟩ | ⟨hsame, hname⟩
  · obtain rfl := hrest.1 hfile
    rcases others with _ | ⟨next, others⟩
    · simp [hfolder] at hothers
    · exact .fileFirst hname
  · rw [hsame] at hrest
    rcases rest with _ | ⟨next, rest⟩ <;> rcases others with _ | ⟨following, others⟩
    · exact .files hname
    · simp [hrest] at hothers
    · simp [hothers] at hrest
    · exact .folders hname

/-- What has been found in order in every branch of a folder is found in order in the folder. -/
theorem pairwise_arrange {path : Path} {branches : List Branch}
    (hnames : (branches.map Branch.name).Nodup) (hlies : ∀ b ∈ branches, b.LiesIn path)
    (hpaths : ∀ b ∈ branches, b.paths.Pairwise path.FoundBefore) :
    (arrange branches).Pairwise path.FoundBefore := by
  have hperm := inOrder_perm branches
  have harrange : arrange branches = (inOrder branches).flatMap Branch.paths := rfl
  rw [harrange, List.pairwise_flatMap]
  refine ⟨fun b hb => hpaths b (hperm.mem_iff.1 hb), ?_⟩
  refine (pairwise_inOrder hnames).imp_of_mem fun {a b} ha hb hab => ?_
  exact foundBefore_of_before hab (hlies a (hperm.mem_iff.1 ha)) (hlies b (hperm.mem_iff.1 hb))

namespace Tree

variable {t : Tree} {q : Quest} {limit : Nat}

/-- What a walk finds at an entry lies at its name, or behind it. -/
theorem liesIn_branch {dir : List String} {path : Path} {name : String} {e : Entry}
    (he : e.isRegular) (hat : t.at? (dir ++ [name]) = some e) :
    (t.branch q limit (path.child name) name e).LiesIn path := by
  intro p hp
  obtain ⟨rest, hfinds, rfl⟩ := (mem_branch_iff e he hat).1 hp
  refine ⟨rest, by rw [name_branch], ?_⟩
  cases e with
  | folder entries =>
    refine iff_of_false Bool.true_eq_false.mp ?_
    rintro rfl
    simp [Finds, countsAsFile, hat] at hfinds
  | file content => exact iff_of_true rfl ((finds_cons_iff_of_no_folder hat (by simp)).1 hfinds).2
  | link target => exact iff_of_true rfl ((finds_cons_iff_of_no_folder hat (by simp)).1 hfinds).2

/-- The branches of a folder have the names of its entries. -/
theorem names_branches (t : Tree) (q : Quest) (limit : Nat) (path : Path)
    (entries : List (String × Entry)) :
    (t.branches q limit path entries).map Branch.name = entries.map Prod.fst := by
  rw [branches_eq_map, List.map_map]
  exact List.map_congr_left fun entry _ => name_branch t q limit _ entry.1 entry.2

/-- The branches of a folder lie in it. -/
theorem liesIn_of_mem_branches {dir : List String} {path : Path} {entries : List (String × Entry)}
    (he : areRegular entries) (hdir : t.at? dir = some (.folder entries)) :
    ∀ b ∈ t.branches q limit path entries, b.LiesIn path := by
  intro b hb
  rw [branches_eq_map] at hb
  obtain ⟨entry, hentry, rfl⟩ := List.mem_map.1 hb
  exact liesIn_branch (isRegular_of_entry?_eq_some he ((mem_iff_entry?_eq_some he).1 hentry)).2
    (at?_of_mem he hdir entry hentry)

mutual

/-- The paths of one branch come in order.  The induction is on the entry, along with that for the
entries of a folder. -/
theorem pairwise_branch {dir : List String} {path : Path} {name : String} :
    (e : Entry) → e.isRegular → t.at? (dir ++ [name]) = some e →
      (t.branch q limit (path.child name) name e).paths.Pairwise path.FoundBefore
  | .file content, _, hat => by
    rw [branch]
    split
    · exact List.pairwise_singleton _ _
    · exact List.Pairwise.nil
  | .link target, _, hat => by
    rw [branch]
    split
    · exact List.pairwise_singleton _ _
    · exact List.Pairwise.nil
  | .folder entries, he, hat => by
    rw [branch]
    split
    · exact List.Pairwise.nil
    · have hnames : ((t.branches q limit (path.child name) entries).map Branch.name).Nodup := by
        rw [names_branches]
        exact nodup_names_of_areRegular he
      exact (pairwise_arrange hnames (liesIn_of_mem_branches he hat)
        (pairwise_branches entries he (at?_of_mem he hat))).imp Path.FoundBefore.of_child

/-- The paths of every branch of a folder come in order. -/
theorem pairwise_branches {dir : List String} {path : Path} :
    (entries : List (String × Entry)) → areRegular entries →
      (∀ entry ∈ entries, t.at? (dir ++ [entry.1]) = some entry.2) →
      ∀ b ∈ t.branches q limit path entries, b.paths.Pairwise path.FoundBefore
  | [], _, _ => by simp [branches]
  | (name, e) :: rest, he, hat => by
    obtain ⟨hfirst, hrest⟩ := List.forall_mem_cons.1 hat
    obtain ⟨-, -, hregular, hothers⟩ := areRegular_cons.1 he
    rw [branches]
    exact List.forall_mem_cons.2
      ⟨pairwise_branch e hregular hfirst, pairwise_branches rest hothers hrest⟩

end

/-- **The order of a walk**: in every folder its files come first, by name, and then what is in its
folders, by their names. -/
theorem pairwise_walk (root : Path) (q : Quest) :
    (t.walk root q).Pairwise root.FoundBefore := by
  unfold walk
  rcases hlist : t.list root with e | ⟨dir, entries⟩
  · exact List.Pairwise.nil
  · have hdir := at?_of_list hlist
    have he : areRegular entries := isRegular_of_at? hdir
    refine pairwise_arrange ?_ (liesIn_of_mem_branches he hdir)
      (pairwise_branches entries he (at?_of_mem he hdir))
    rw [names_branches]
    exact nodup_names_of_areRegular he

/-- **A walk finds no path twice.** -/
theorem nodup_walk (root : Path) (q : Quest) : (t.walk root q).Nodup :=
  (pairwise_walk root q).imp Path.FoundBefore.ne

end Tree
end Workspace
end DeclSearch
