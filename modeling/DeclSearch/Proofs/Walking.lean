/-
# What a walk finds

A walk enters every folder below its root unless the folder is passed over by name or closed,
and finds in each of them the wanted names that stand for a file or lead to one: `Tree.Finds` says
so of the names on the way from the root to a file (`Tree.mem_walk_iff`).  Of where the walk has
started nothing but the folders on the way matters (`Tree.finds_append_iff`), so a walk that starts
further down finds there what the walk from above has found.
-/

import DeclSearch.Proofs.Folders

namespace DeclSearch
namespace Workspace
namespace Tree

variable {t : Tree} {q : Quest} {limit : Nat} {dir : List String} {path : Path}

/-- Whether a walk goes down from a path through some names: it passes over none of the folders
on the way. -/
def Enters (t : Tree) (q : Quest) (limit : Nat) (path : Path) : List String → Prop
  | [] => True
  | name :: names =>
    (q.excluded.contains name = false ∧ t.isClosed limit (path.child name) = false) ∧
      Enters t q limit (path.child name) names

/-- Whether the name in the folder at `dir`, which is reached as `path`, stands for a file or leads
to one. -/
def countsAsFile (t : Tree) (limit : Nat) (dir : List String) (path : Path) (name : String) :
    Bool :=
  match t.at? (dir ++ [name]) with
  | some (.file _) => true
  | some (.link _) => t.leadsToFile limit (path.child name)
  | _ => false

/-- Whether a walk that has come to the folder at `dir` as `path` finds a file at the end of some
names: it enters the folders on the way, and the last name is wanted. -/
def Finds (t : Tree) (q : Quest) (limit : Nat) (dir : List String) (path : Path) :
    List String → Prop
  | [] => False
  | [name] => t.countsAsFile limit dir path name ∧ q.wants name
  | name :: next :: names =>
    (q.excluded.contains name = false ∧ t.isClosed limit (path.child name) = false) ∧
      Finds t q limit (dir ++ [name]) (path.child name) (next :: names)

/-- A walk enters folders one below the other if it enters the first and, from there, the others. -/
theorem enters_append_iff {names more : List String} :
    t.Enters q limit path (names ++ more) ↔
      t.Enters q limit path names ∧ t.Enters q limit (path.descend names) more := by
  induction names generalizing path with
  | nil => simp [Enters]
  | cons name names ih =>
    rw [List.cons_append, Enters, Enters, ih, Path.child_descend]
    exact and_assoc.symm

/-- A folder that a walk comes to is open if it can be listed. -/
theorem isClosed_eq_false_iff :
    t.isClosed limit path = false ↔ ∃ listing, t.listWithin limit path = .ok listing := by
  unfold isClosed
  rcases t.listWithin limit path with e | listing <;> simp [Except.isOk, Except.toBool]

/-- Which folders a walk enters depends on what it passes over, and not on what it wants; of its
limit no more is needed than the way to the last folder takes. -/
theorem Enters.mono {other : Quest} {otherLimit : Nat} (h : q.excluded = other.excluded)
    {names more : List String}
    (hlimit : min limit (path.descend (names ++ more)).render.utf8ByteSize ≤ otherLimit)
    (he : t.Enters q limit path names) : t.Enters other otherLimit path names := by
  induction names generalizing path with
  | nil => trivial
  | cons name names ih =>
    obtain ⟨⟨hname, hclosed⟩, hnames⟩ := he
    rw [List.cons_append, ← Path.child_descend] at hlimit
    obtain ⟨listing, hlisting⟩ := isClosed_eq_false_iff.1 hclosed
    have hsize := size_le_of_listWithin hlisting
    have hlonger := @Path.size_render_le_descend (path.child name) (by simp [Path.child])
      (names ++ more)
    exact ⟨⟨h ▸ hname, isClosed_eq_false_iff.2 ⟨listing, listWithin_of_le hlisting (by omega)⟩⟩,
      ih hlimit hnames⟩

/-- A path leads to a file if it can be looked up within the limit and a file is there. -/
theorem leadsToFile_iff :
    t.leadsToFile limit path ↔
      ∃ names content, t.resolveWithin limit path = .ok ⟨names, .file content⟩ := by
  unfold leadsToFile
  rcases t.resolveWithin limit path with fault | ⟨names, content | entries | target⟩ <;> simp

/-- What counts as a file does so wherever its path is not too long. -/
theorem countsAsFile_mono {otherLimit : Nat} {name : String}
    (hlimit : min limit (path.child name).render.utf8ByteSize ≤ otherLimit)
    (h : t.countsAsFile limit dir path name) : t.countsAsFile otherLimit dir path name := by
  unfold countsAsFile at h ⊢
  split at h
  · rfl
  · obtain ⟨names, content, hresolve⟩ := leadsToFile_iff.1 h
    obtain ⟨-, hsize, -⟩ := resolveWithin_eq_ok_iff.1 hresolve
    exact leadsToFile_iff.2 ⟨names, content, resolveWithin_of_le hresolve (by omega)⟩
  · exact nomatch h

/-- **A walk can start further down.**  What it finds behind some folders is what it would find
from there, if it enters these. -/
theorem finds_append_iff {names more : List String} (hmore : more ≠ []) :
    t.Finds q limit dir path (names ++ more) ↔
      t.Enters q limit path names ∧ t.Finds q limit (dir ++ names) (path.descend names) more := by
  induction names generalizing dir path with
  | nil => simp [Enters]
  | cons name names ih =>
    have hstep : t.Finds q limit dir path (name :: (names ++ more)) ↔
        (q.excluded.contains name = false ∧ t.isClosed limit (path.child name) = false) ∧
          t.Finds q limit (dir ++ [name]) (path.child name) (names ++ more) := by
      rcases hrest : names ++ more with _ | ⟨next, rest⟩
      · exact absurd (List.append_eq_nil_iff.1 hrest).2 hmore
      · rfl
    rw [List.cons_append, hstep, ih, Enters, Path.child_descend, List.append_assoc]
    exact and_assoc.symm

/-- What is found is found within every limit that leaves room for its path, or for the longest
path that was allowed. -/
theorem Finds.mono {otherLimit : Nat} {names : List String} (h : t.Finds q limit dir path names)
    (hlimit : min limit (path.descend names).render.utf8ByteSize ≤ otherLimit) :
    t.Finds q otherLimit dir path names := by
  rcases List.eq_nil_or_concat names with rfl | ⟨folders, name, rfl⟩
  · exact h
  · rw [List.concat_eq_append] at h hlimit ⊢
    obtain ⟨henters, hcounts, hwants⟩ := (finds_append_iff (List.cons_ne_nil name [])).1 h
    refine (finds_append_iff (List.cons_ne_nil name [])).2
      ⟨henters.mono rfl hlimit, countsAsFile_mono ?_ hcounts, hwants⟩
    rwa [Path.descend_child]

/-- What is found is the last name in a folder. -/
theorem exists_of_finds {names : List String} (h : t.Finds q limit dir path names) :
    ∃ folders name entries, names = folders ++ [name] ∧ t.Enters q limit path folders ∧
      t.at? (dir ++ folders) = some (.folder entries) := by
  rcases List.eq_nil_or_concat names with rfl | ⟨folders, name, rfl⟩
  · exact absurd h id
  · rw [List.concat_eq_append, finds_append_iff (List.cons_ne_nil name [])] at h
    obtain ⟨henters, hcounts, -⟩ := h
    have hfolder : ∃ entries, t.at? (dir ++ folders) = some (.folder entries) := by
      unfold countsAsFile at hcounts
      split at hcounts
      · next hat => exact (exists_folder_of_at? hat).imp fun _ => And.left
      · next hat => exact (exists_folder_of_at? hat).imp fun _ => And.left
      · exact nomatch hcounts
    obtain ⟨entries, hentries⟩ := hfolder
    exact ⟨folders, name, entries, List.concat_eq_append, henters, hentries⟩

/-- The names of what is found start at an entry of the folder. -/
theorem exists_entry_of_finds {entries : List (String × Entry)}
    (hdir : t.at? dir = some (.folder entries)) {name : String} {rest : List String}
    (h : t.Finds q limit dir path (name :: rest)) : ∃ e, entry? name entries = some e := by
  have hat : ∃ e, t.at? (dir ++ [name]) = some e := by
    rcases rest with _ | ⟨next, rest⟩
    · obtain ⟨hcounts, -⟩ := h
      unfold countsAsFile at hcounts
      rcases ht : t.at? (dir ++ [name]) with _ | e
      · simp [ht] at hcounts
      · exact ⟨e, rfl⟩
    · obtain ⟨folders, last, inner, hnames, -, hinner⟩ := exists_of_finds h.2
      exact (exists_folder_of_at?_append hinner).imp' _ fun _ => id
  obtain ⟨e, he⟩ := hat
  rw [at?_append_singleton, hdir] at he
  exact ⟨e, he⟩

/-- The branches of a folder are those of its entries, one by one. -/
theorem branches_eq_map (t : Tree) (q : Quest) (limit : Nat) (path : Path)
    (entries : List (String × Entry)) :
    t.branches q limit path entries =
      entries.map fun entry => t.branch q limit (path.child entry.1) entry.1 entry.2 := by
  induction entries with
  | nil => rfl
  | cons entry rest ih => rw [branches, ih, List.map_cons]

mutual

/-- What a walk finds at an entry depends on which names are wanted and which are passed over, and
not on how these are given. -/
theorem branch_congr (t : Tree) {other : Quest} (hexcluded : q.excluded = other.excluded)
    (hwants : ∀ name, q.wants name = other.wants name) (path : Path) (name : String) :
    (e : Entry) → t.branch q limit path name e = t.branch other limit path name e
  | .file _ => by rw [branch, branch, hwants]
  | .link _ => by rw [branch, branch, hwants]
  | .folder entries => by
    rw [branch, branch, hexcluded, branches_congr t hexcluded hwants path entries]

/-- Two walks that pass over the same folders and want the same names branch alike. -/
theorem branches_congr (t : Tree) {other : Quest} (hexcluded : q.excluded = other.excluded)
    (hwants : ∀ name, q.wants name = other.wants name) (path : Path) :
    (entries : List (String × Entry)) →
      t.branches q limit path entries = t.branches other limit path entries
  | [] => rfl
  | (name, e) :: rest => by
    rw [branches, branches, branch_congr t hexcluded hwants _ name e,
      branches_congr t hexcluded hwants path rest]

end

/-- **Quests for the same names find the same files**, in the same order. -/
theorem walk_congr (t : Tree) {other : Quest} (hexcluded : q.excluded = other.excluded)
    (hwants : ∀ name, q.wants name = other.wants name) (root : Path) :
    t.walk root q = t.walk root other := by
  unfold walk
  rcases t.list root with e | ⟨dir, entries⟩
  · rfl
  · exact congrArg arrange (branches_congr t hexcluded hwants root entries)

/-- A branch has the name of its entry. -/
theorem name_branch (t : Tree) (q : Quest) (limit : Nat) (path : Path) (name : String) (e : Entry) :
    (t.branch q limit path name e).name = name := by
  cases e <;> rfl

/-- What is found below a folder is found at one of its entries. -/
theorem exists_finds_iff {entries : List (String × Entry)} (he : areRegular entries)
    (hdir : t.at? dir = some (.folder entries)) {p : Path} :
    (∃ entry ∈ entries, ∃ rest, t.Finds q limit dir path (entry.1 :: rest) ∧
        p = path.descend (entry.1 :: rest)) ↔
      ∃ names, t.Finds q limit dir path names ∧ p = path.descend names := by
  constructor
  · rintro ⟨entry, -, rest, h⟩
    exact ⟨entry.1 :: rest, h⟩
  · rintro ⟨_ | ⟨name, rest⟩, hfinds, hp⟩
    · exact absurd hfinds id
    · obtain ⟨e, hentry⟩ := exists_entry_of_finds hdir hfinds
      exact ⟨(name, e), (mem_iff_entry?_eq_some he).2 hentry, rest, hfinds, hp⟩

/-- Behind what is no folder nothing is found. -/
theorem finds_cons_iff_of_no_folder {name : String} {e : Entry}
    (hat : t.at? (dir ++ [name]) = some e) (he : ∀ entries, e ≠ .folder entries)
    {rest : List String} :
    t.Finds q limit dir path (name :: rest) ↔
      (t.countsAsFile limit dir path name ∧ q.wants name) ∧ rest = [] := by
  rcases rest with _ | ⟨next, rest⟩
  · simp [Finds]
  · refine iff_of_false (fun h => ?_) (by simp)
    obtain ⟨folders, last, inner, -, -, hinner⟩ := exists_of_finds h.2
    obtain ⟨entries, hentries⟩ := exists_folder_of_at?_append hinner
    exact he entries (Option.some.inj (hat.symm.trans hentries))

/-- The entries of a folder are what its names stand for. -/
theorem at?_of_mem {entries : List (String × Entry)} (he : areRegular entries)
    (hdir : t.at? dir = some (.folder entries)) :
    ∀ entry ∈ entries, t.at? (dir ++ [entry.1]) = some entry.2 := by
  intro entry hentry
  rw [at?_append_singleton, hdir]
  exact (mem_iff_entry?_eq_some he).1 hentry

mutual

/-- **What a walk finds at an entry** lies behind the entry's name. A file, and a link that leads to
one, is found by that name alone; in a folder that is entered the names go on. -/
theorem mem_branch_iff {dir : List String} {path : Path} {name : String} {p : Path} :
    (e : Entry) → e.isRegular → t.at? (dir ++ [name]) = some e →
      (p ∈ (t.branch q limit (path.child name) name e).paths ↔
        ∃ rest, t.Finds q limit dir path (name :: rest) ∧ p = path.descend (name :: rest))
  | .file content, _, hat => by
    have hcounts : t.countsAsFile limit dir path name = true := by rw [countsAsFile, hat]
    simp [branch, List.mem_ite_nil_right, finds_cons_iff_of_no_folder hat, hcounts,
      ← Path.child_descend]
  | .link target, _, hat => by
    have hcounts : t.countsAsFile limit dir path name = t.leadsToFile limit (path.child name) := by
      rw [countsAsFile, hat]
    simp [branch, List.mem_ite_nil_right, finds_cons_iff_of_no_folder hat, hcounts,
      ← Path.child_descend]
  | .folder entries, he, hat => by
    have hinner : (∃ b ∈ t.branches q limit (path.child name) entries, p ∈ b.paths) ↔ _ :=
      mem_branches_iff entries he (at?_of_mem he hat)
    rw [exists_finds_iff he hat] at hinner
    have hcounts : t.countsAsFile limit dir path name = false := by rw [countsAsFile, hat]
    -- The folder is no file itself, so what is found goes on by a name inside of it.
    have hcons : (∃ rest, t.Finds q limit dir path (name :: rest) ∧
          p = path.descend (name :: rest)) ↔
        (q.excluded.contains name = false ∧ t.isClosed limit (path.child name) = false) ∧
          ∃ rest, t.Finds q limit (dir ++ [name]) (path.child name) rest ∧
            p = (path.child name).descend rest := by
      simp only [Path.child_descend]
      constructor
      · rintro ⟨_ | ⟨next, rest⟩, hfinds, hp⟩
        · exact absurd hfinds.1 (by simp [hcounts])
        · exact ⟨hfinds.1, next :: rest, hfinds.2, hp⟩
      · rintro ⟨henters, _ | ⟨next, rest⟩, hfinds, hp⟩
        · exact absurd hfinds id
        · exact ⟨next :: rest, ⟨henters, hfinds⟩, hp⟩
    rw [hcons, ← hinner, ← mem_arrange_iff]
    rw [branch]
    cases q.excluded.contains name <;> cases t.isClosed limit (path.child name) <;> simp

/-- What the branches of a folder hold is what a walk finds below it.  The induction is on the
entries, along with that for a single one. -/
theorem mem_branches_iff {dir : List String} {path : Path} {p : Path} :
    (entries : List (String × Entry)) → areRegular entries →
      (∀ entry ∈ entries, t.at? (dir ++ [entry.1]) = some entry.2) →
      ((∃ b ∈ t.branches q limit path entries, p ∈ b.paths) ↔
        ∃ entry ∈ entries, ∃ rest, t.Finds q limit dir path (entry.1 :: rest) ∧
          p = path.descend (entry.1 :: rest))
  | [], _, _ => by simp [branches]
  | (name, e) :: rest, he, hat => by
    obtain ⟨hfirst, hrest⟩ := List.forall_mem_cons.1 hat
    obtain ⟨-, -, hregular, hothers⟩ := areRegular_cons.1 he
    simp only [branches, List.mem_cons, exists_eq_or_imp, mem_branch_iff e hregular hfirst,
      mem_branches_iff rest hothers hrest]

end

/-- **What a walk finds.** -/
theorem mem_walk_iff {root p : Path} :
    p ∈ t.walk root q ↔
      ∃ dir entries names, t.list root = .ok (dir, entries) ∧
        t.Finds q (walkLimit root) dir root names ∧ p = root.descend names := by
  unfold walk
  rcases hlist : t.list root with e | ⟨dir, entries⟩
  · simp
  · have hdir := at?_of_list hlist
    have he : areRegular entries := isRegular_of_at? hdir
    dsimp only
    rw [mem_arrange_iff, mem_branches_iff entries he (at?_of_mem he hdir), exists_finds_iff he hdir]
    simp

/-- What a walk finds lies below its root. -/
theorem above_of_mem_walk {root p : Path} (h : p ∈ t.walk root q) : root.Above p := by
  obtain ⟨dir, entries, names, -, hfinds, rfl⟩ := mem_walk_iff.1 h
  refine Path.above_descend_iff.2 ?_
  rintro rfl
  exact hfinds

/-- No walk looks up paths that are longer than the system allows. -/
theorem walkLimit_le (root : Path) : walkLimit root ≤ longestPath := by
  unfold walkLimit
  split <;> simp [longestPath]

/-- A walk that starts further down can use paths that are no shorter. -/
theorem walkLimit_le_descend (root : Path) (names : List String) :
    walkLimit root ≤ walkLimit (root.descend names) := by
  by_cases hroot : root = .here
  · subst hroot
    unfold walkLimit
    rw [if_pos rfl]
    split <;> omega
  · have hdescend : root.descend names ≠ .here := by
      intro he
      obtain ⟨hanchor, hnames⟩ := Path.mk.inj he
      exact hroot (Path.mk.injEq .. ▸ ⟨hanchor, (List.append_eq_nil_iff.1 hnames).1⟩)
    exact Nat.le_of_eq (by rw [walkLimit, walkLimit, if_neg hroot, if_neg hdescend])

/-- The folder that a walk comes to by some names is listed by its own path. -/
theorem list_of_enters {root : Path} {entries inner : List (String × Entry)}
    (hroot : t.list root = .ok (dir, entries)) {names : List String}
    (henters : t.Enters q (walkLimit root) root names)
    (hinner : t.at? (dir ++ names) = some (.folder inner)) :
    t.list (root.descend names) = .ok (dir ++ names, inner) := by
  obtain ⟨listing, hlisting⟩ : ∃ listing, t.list (root.descend names) = .ok listing := by
    rcases List.eq_nil_or_concat names with rfl | ⟨folders, name, rfl⟩
    · exact ⟨_, by rwa [Path.descend_nil]⟩
    · rw [List.concat_eq_append, enters_append_iff] at henters
      obtain ⟨listing, hlisting⟩ := isClosed_eq_false_iff.1 henters.2.1.2
      rw [Path.descend_child, ← List.concat_eq_append] at hlisting
      exact ⟨listing, listWithin_of_le hlisting
        (Nat.le_trans (size_le_of_listWithin hlisting) (walkLimit_le root))⟩
  rw [hlisting, eq_of_listWithin_descend hroot hinner hlisting]

/-- The folder of what a walk has found, on the way from its root. -/
theorem exists_of_mem_walk {root p : Path} (h : p ∈ t.walk root q) :
    ∃ dir entries folders inner, t.list root = .ok (dir, entries) ∧
      t.Enters q (walkLimit root) root folders ∧
      t.at? (dir ++ folders) = some (.folder inner) ∧ p.parent = root.descend folders := by
  obtain ⟨dir, entries, names, hlist, hfinds, rfl⟩ := mem_walk_iff.1 h
  obtain ⟨folders, name, inner, rfl, henters, hinner⟩ := exists_of_finds hfinds
  exact ⟨dir, entries, folders, inner, hlist, henters, hinner, Path.parent_descend_append ..⟩

/-- **A walk from above finds what a walk from below finds.**  The folders of two files that one
walk has found lie above each other; what another walk, which passes over the same folders, finds
from the lower one it finds from the upper one too, unless its path is too long from there. -/
theorem mem_walk_of_atOrAbove {other : Quest} (hexcluded : q.excluded = other.excluded)
    {root upper lower p : Path} (hupper : upper ∈ t.walk root q) (hlower : lower ∈ t.walk root q)
    (habove : upper.parent.AtOrAbove lower.parent) (hp : p ∈ t.walk lower.parent other)
    (hsize : p.render.utf8ByteSize ≤ walkLimit upper.parent) :
    p ∈ t.walk upper.parent other := by
  obtain ⟨dir, entries, us, upperInner, hlist, hus, hupperAt, hupperPath⟩ :=
    exists_of_mem_walk hupper
  obtain ⟨_, _, ls, lowerInner, hlist', hls, hlowerAt, hlowerPath⟩ := exists_of_mem_walk hlower
  obtain ⟨rfl, rfl⟩ := Prod.mk.inj (Except.ok.inj (hlist.symm.trans hlist'))
  obtain ⟨place, _, names, hplace, hfinds, rfl⟩ := mem_walk_iff.1 hp
  -- The lower folder is reached from the upper one by some more names.
  obtain ⟨between, hbetween⟩ := Path.atOrAbove_iff.1 habove
  rw [hupperPath, hlowerPath, Path.descend_descend] at hbetween
  obtain rfl := Path.descend_injective hbetween
  have hlowerList := list_of_enters hlist hls hlowerAt
  rw [hlowerPath] at hplace hfinds hsize ⊢
  obtain ⟨rfl, -⟩ := Prod.mk.inj (Except.ok.inj (hplace.symm.trans hlowerList))
  rw [hupperPath] at hsize ⊢
  rw [← Path.descend_descend root us between] at hfinds hsize ⊢
  refine mem_walk_iff.2 ⟨_, _, between ++ names, list_of_enters hlist hus hupperAt, ?_, by simp⟩
  have hne : names ≠ [] := by
    rintro rfl
    exact hfinds
  refine (finds_append_iff hne).2 ⟨@Enters.mono t q _ _ other _ hexcluded between names ?_
    (enters_append_iff.1 hls).2, ?_⟩
  · exact Nat.le_trans (Nat.min_le_right _ _) (Path.descend_descend .. ▸ hsize)
  · rw [← List.append_assoc] at hfinds
    exact hfinds.mono (Nat.le_trans (Nat.min_le_right _ _) hsize)

/-- **A walk from below finds what a walk from above finds there**, from every folder on the way to
it. -/
theorem mem_walk_of_above {root lower p : Path} (hp : p ∈ t.walk root q)
    (hlower : root.AtOrAbove lower) (hbelow : lower.Above p) : p ∈ t.walk lower q := by
  obtain ⟨dir, entries, names, hlist, hfinds, rfl⟩ := mem_walk_iff.1 hp
  obtain ⟨ls, rfl⟩ := Path.atOrAbove_iff.1 hlower
  obtain ⟨more, hmore⟩ := Path.atOrAbove_iff.1 hbelow.1
  rw [Path.descend_descend] at hmore
  obtain rfl := Path.descend_injective hmore
  have hne : more ≠ [] := by
    rintro rfl
    exact hbelow.2 (by rw [List.append_nil])
  obtain ⟨henters, hrest⟩ := (finds_append_iff hne).1 hfinds
  obtain ⟨folders, name, inner, rfl, -, hinner⟩ := exists_of_finds hrest
  obtain ⟨below, hbelowAt⟩ := exists_folder_of_at?_append hinner
  exact mem_walk_iff.2 ⟨_, _, _, list_of_enters hlist henters hbelowAt,
    hrest.mono (Nat.le_trans (Nat.min_le_left _ _) (walkLimit_le_descend root ls)), by simp⟩

end Tree
end Workspace
end DeclSearch
