/-
# What the contents of files do not decide

The outline of a tree is the tree with every file emptied.  Leaving out the contents commutes with
every step that looks up a name: with resolving a path through whatever links, with listing a folder
and with a walk (`Tree.resolve_outline`, `Tree.walk_outline`).  So trees with one outline are walked
alike, and a path that leads somewhere in one of them leads to the same place in the other.

Putting other contents in the place of a file keeps the outline, and it keeps what every path reads
that does not lead to this place (`Tree.read_withContent_of_ne`, `Tree.size_withContent_of_ne`).
-/

import DeclSearch.Proofs.Folders
import DeclSearch.Workspace.Edit

namespace DeclSearch
namespace Workspace

open Text (Bytes)

mutual

/-- An entry with the contents of its files left out. -/
def Entry.outline : Entry → Entry
  | .file _ => .file []
  | .link target => .link target
  | .folder entries => .folder (outlines entries)

/-- The entries of a folder with the contents of their files left out. -/
def outlines : List (String × Entry) → List (String × Entry)
  | [] => []
  | (name, e) :: rest => (name, e.outline) :: outlines rest

end

/-- A place with the contents of its files left out. -/
def Tree.Place.outline (place : Tree.Place) : Tree.Place := ⟨place.names, place.entry.outline⟩

/-- An entry is looked up among the others if the first one has another name. -/
theorem entry?_cons (name : String) (entry : String × Entry) (rest : List (String × Entry)) :
    entry? name (entry :: rest) = if name = entry.1 then some entry.2 else entry? name rest := by
  unfold entry?
  rw [List.lookup_cons]
  by_cases h : name = entry.1
  · rw [if_pos h, beq_iff_eq.2 h]
  · rw [if_neg h, beq_eq_false_iff_ne.2 h]

/-- The outline of a folder has the outline of an entry under each name. -/
theorem entry?_outlines (name : String) (entries : List (String × Entry)) :
    entry? name (outlines entries) = Option.map Entry.outline ( entry? name entries) := by
  induction entries with
  | nil => rfl
  | cons entry rest ih =>
    rw [outlines, entry?_cons, entry?_cons, ih]
    split <;> rfl

/-- Leaving out contents keeps the names of a folder. -/
theorem map_fst_outlines (entries : List (String × Entry)) :
    (outlines entries).map Prod.fst = entries.map Prod.fst := by
  induction entries with
  | nil => rfl
  | cons entry rest ih => rw [outlines, List.map_cons, List.map_cons, ih]

mutual

/-- Leaving out contents keeps an entry regular. -/
theorem isRegular_outline : (e : Entry) → e.isRegular → e.outline.isRegular
  | .file _, _ => rfl
  | .link _, _ => rfl
  | .folder entries, he => areRegular_outlines entries he

/-- Outlines keep the names and the links, so they are as well formed as the entries. -/
theorem areRegular_outlines :
    (entries : List (String × Entry)) → areRegular entries → areRegular (outlines entries)
  | [], _ => rfl
  | (name, e) :: rest, h => by
    obtain ⟨hname, hdiffer, he, hrest⟩ := areRegular_cons.1 h
    refine areRegular_cons.2
      ⟨hname, fun entry hentry => ?_, isRegular_outline e he, areRegular_outlines rest hrest⟩
    have hmem := List.mem_map_of_mem (f := Prod.fst) hentry
    rw [map_fst_outlines] at hmem
    obtain ⟨other, hother, hsame⟩ := List.mem_map.1 hmem
    exact hsame ▸ hdiffer other hother

end

/-- An entry may be put into a folder before its outline is taken, or its outline afterwards. -/
theorem outlines_setEntry (name : String) (e : Entry) (entries : List (String × Entry)) :
    outlines (setEntry name e entries) = setEntry name e.outline (outlines entries) := by
  induction entries with
  | nil => rfl
  | cons entry rest ih =>
    rw [setEntry, outlines, setEntry]
    split
    · rfl
    · rw [outlines, ih]

/-- Putting an entry where it stands already changes nothing. -/
theorem setEntry_of_entry?_eq_some {name : String} {e : Entry} {entries : List (String × Entry)}
    (h : entry? name entries = some e) : setEntry name e entries = entries := by
  induction entries with
  | nil => exact nomatch h
  | cons entry rest ih =>
    obtain ⟨first, old⟩ := entry
    rw [entry?_cons] at h
    rw [setEntry]
    split at h
    · next hname =>
      rw [if_pos hname.symm, hname, ← Option.some.inj h]
    · next hname => rw [if_neg (Ne.symm hname), ih h]

/-- An entry that was put into a folder is found there under its name. -/
theorem entry?_setEntry (name : String) (e : Entry) (entries : List (String × Entry)) :
    entry? name (setEntry name e entries) = some e := by
  induction entries with
  | nil => simp [setEntry, entry?_cons]
  | cons entry rest ih =>
    rw [setEntry]
    split
    · simp [entry?_cons]
    · next hname => rw [entry?_cons, if_neg (Ne.symm hname), ih]

/-- An entry that was put into a folder does not change what is found under other names. -/
theorem entry?_setEntry_of_ne {name other : String} (h : other ≠ name) (e : Entry)
    (entries : List (String × Entry)) :
    entry? other (setEntry name e entries) = entry? other entries := by
  induction entries with
  | nil => simp [setEntry, entry?_cons, h]
  | cons entry rest ih =>
    rw [setEntry]
    split
    · next hname => rw [entry?_cons, entry?_cons, hname, if_neg h, if_neg h]
    · rw [entry?_cons, entry?_cons, ih]

namespace Tree

/-- A tree with the contents of its files left out. -/
def outline (t : Tree) : Tree :=
  { t with top := outlines t.top, regular := areRegular_outlines t.top t.regular }

/-- A tree with other contents in the place of a file. -/
def withContent (t : Tree) (names : List String) (content : Bytes) : Tree :=
  t.placing names (.file content)

variable {t : Tree}

/-- Leaving out contents commutes with going down. -/
theorem at?_outline (t : Tree) (names : List String) :
    t.outline.at? names = (t.at? names).map Entry.outline := by
  induction names using List.reverseRecOn with
  | nil => rfl
  | append_singleton dir name ih =>
    rw [at?_append_singleton, at?_append_singleton, ih]
    rcases t.at? dir with _ | _ | entries | _
    · rfl
    · rfl
    · exact entry?_outlines name entries
    · rfl

/-- An outline has the folders without rights of its tree. -/
theorem isLocked_outline (t : Tree) (names : List String) :
    t.outline.isLocked names = t.isLocked names := rfl

/-- Leaving out contents commutes with resolving names, if it does so with following a link.
Resolving asks of an entry only whether it is a folder, a file or a link, and of a folder only its
names; all of this stays. -/
theorem resolveVia_outline {onLink onLink' : List String → List String → Except Fault Place}
    (honLink : ∀ dir names, onLink' dir names = (onLink dir names).map Place.outline)
    (dir names : List String) :
    t.outline.resolveVia onLink' dir names =
      (t.resolveVia onLink dir names).map Place.outline := by
  fun_induction resolveVia t onLink dir names with
  | case1 dir e he => rw [resolveVia, at?_outline, he]; rfl
  | case2 dir he => rw [resolveVia, at?_outline, he]; rfl
  | case3 dir name rest entries hdir hlocked =>
    simp [resolveVia, at?_outline, isLocked_outline, hdir, Entry.outline, hlocked, Except.map]
  | case4 dir name rest entries hdir hopen hsize =>
    simp [resolveVia, at?_outline, isLocked_outline, hdir, Entry.outline, hopen, hsize, Except.map]
  | case5 dir rest entries hdir hopen hsize ih =>
    simpa [resolveVia, at?_outline, isLocked_outline, hdir, Entry.outline, hopen, hsize] using ih
  | case6 dir rest entries hdir hopen hsize hdot ih =>
    simpa [resolveVia, at?_outline, isLocked_outline, hdir, Entry.outline, hopen, hsize, hdot]
      using ih
  | case7 dir name rest entries hdir hopen hsize hdot hdots hentry =>
    simp [resolveVia, at?_outline, isLocked_outline, hdir, Entry.outline, hopen, hsize, hdot, hdots,
      entry?_outlines, hentry, Except.map]
  | case8 dir name rest entries hdir hopen hsize hdot hdots target hentry hrelative =>
    simp [resolveVia, at?_outline, isLocked_outline, hdir, Entry.outline, hopen, hsize, hdot, hdots,
      entry?_outlines, hentry, hrelative, honLink]
  | case9 dir name rest entries hdir hopen hsize hdot hdots target hentry hanchored =>
    simp [resolveVia, at?_outline, isLocked_outline, hdir, Entry.outline, hopen, hsize, hdot, hdots,
      entry?_outlines, hentry, hanchored, Except.map]
  | case10 dir name rest entries hdir hopen hsize hdot hdots e hlink hentry ih =>
    cases e with
    | link target => exact absurd rfl (hlink target)
    | file content =>
      simpa [resolveVia, at?_outline, isLocked_outline, hdir, Entry.outline, hopen, hsize, hdot,
        hdots, entry?_outlines, hentry] using ih
    | folder inner =>
      simpa [resolveVia, at?_outline, isLocked_outline, hdir, Entry.outline, hopen, hsize, hdot,
        hdots, entry?_outlines, hentry] using ih
  | case11 dir name rest e hfolder hdir =>
    cases e with
    | folder entries => exact absurd rfl (hfolder entries)
    | file content => simp [resolveVia, at?_outline, hdir, Entry.outline, Except.map]
    | link target => simp [resolveVia, at?_outline, hdir, Entry.outline, Except.map]
  | case12 dir name rest hdir => simp [resolveVia, at?_outline, hdir, Except.map]

/-- From any folder a path leads to the same place in the outline, and there to the outline of what
it led to. -/
theorem resolveFrom_outline (t : Tree) (links : Nat) (dir names : List String) :
    t.outline.resolveFrom links dir names =
      (t.resolveFrom links dir names).map Place.outline := by
  induction links generalizing dir names with
  | zero =>
    refine resolveVia_outline (fun _ _ => ?_) dir names
    rfl
  | succ links ih => exact resolveVia_outline ih dir names

/-- **Where a path leads is not decided by contents.** -/
theorem resolveWithin_outline (t : Tree) (limit : Nat) (p : Path) :
    t.outline.resolveWithin limit p = (t.resolveWithin limit p).map Place.outline := by
  unfold resolveWithin
  split
  · rfl
  split
  · rfl
  split
  · exact resolveFrom_outline t linkLimit [] p.names
  · rfl

/-- A path leads to the same place in the outline of a tree. -/
theorem resolve_outline (t : Tree) (p : Path) :
    t.outline.resolve p = (t.resolve p).map Place.outline :=
  resolveWithin_outline t longestPath p

/-- Which names a folder has is not decided by contents. -/
theorem listWithin_outline (t : Tree) (limit : Nat) (p : Path) :
    t.outline.listWithin limit p =
      (t.listWithin limit p).map fun found => (found.1, outlines found.2) := by
  have hrefuses : t.outline.refuses p = t.refuses p := rfl
  unfold listWithin
  dsimp only
  rw [hrefuses, resolveWithin_outline]
  split
  · rfl
  · rcases t.resolveWithin limit p with fault | ⟨names, content | entries | target⟩
    · rfl
    · rfl
    · dsimp only [Except.map, Place.outline, Entry.outline]
      rw [isLocked_outline]
      split <;> rfl
    · rfl

/-- Whether a path leads to a folder that cannot be listed is seen in the outline. -/
theorem isClosed_outline (t : Tree) (limit : Nat) (path : Path) :
    t.outline.isClosed limit path = t.isClosed limit path := by
  unfold isClosed
  rw [listWithin_outline]
  rcases t.listWithin limit path with e | listing <;> rfl

/-- Whether a path leads to a file is seen in the outline. -/
theorem leadsToFile_outline (t : Tree) (limit : Nat) (path : Path) :
    t.outline.leadsToFile limit path = t.leadsToFile limit path := by
  unfold leadsToFile
  rw [resolveWithin_outline]
  rcases t.resolveWithin limit path with fault | ⟨names, _ | _ | _⟩ <;> rfl

mutual

/-- What a walk finds at an entry is not decided by contents. -/
theorem branch_outline (t : Tree) (q : Quest) (limit : Nat) (path : Path) (name : String) :
    (e : Entry) → t.outline.branch q limit path name e.outline = t.branch q limit path name e
  | .file _ => by rw [Entry.outline, branch, branch]
  | .link _ => by rw [Entry.outline, branch, branch, leadsToFile_outline]
  | .folder entries => by
    rw [Entry.outline, branch, branch, branches_outlines t q limit path entries, isClosed_outline]

/-- A walk branches alike at a folder and at its outline, since it looks at names and kinds of
entries alone. -/
theorem branches_outlines (t : Tree) (q : Quest) (limit : Nat) (path : Path) :
    (entries : List (String × Entry)) →
      t.outline.branches q limit path (outlines entries) = t.branches q limit path entries
  | [] => rfl
  | (name, e) :: rest => by
    rw [outlines, branches, branches, branch_outline t q limit _ name e,
      branches_outlines t q limit path rest]

end

/-- **What a walk finds is not decided by contents**, but by names, by rights and by where links
lead. -/
theorem walk_outline (t : Tree) (root : Path) (q : Quest) :
    t.outline.walk root q = t.walk root q := by
  unfold walk list
  rw [listWithin_outline]
  rcases t.listWithin longestPath root with e | ⟨dir, entries⟩
  · rfl
  · exact congrArg arrange (branches_outlines t q _ root entries)

end Tree

/-- Where names lead depends on what the first of them stands for. -/
theorem entryAt?_cons_congr {entries others : List (String × Entry)} {name : String}
    (h : entry? name entries = entry? name others) (rest : List String) :
    entryAt? entries (name :: rest) = entryAt? others (name :: rest) := by
  unfold entryAt?
  rw [List.foldl_cons, List.foldl_cons]
  dsimp only
  rw [h]

/-- Going down through a folder. -/
theorem entryAt?_cons_of_folder {entries inner : List (String × Entry)} {name : String}
    (h : entry? name entries = some (.folder inner)) (rest : List String) :
    entryAt? entries (name :: rest) = entryAt? inner rest := by
  unfold entryAt?
  rw [List.foldl_cons]
  dsimp only
  rw [h]

/-- What stands behind a name stands in a folder of that name. -/
theorem exists_folder_of_entryAt?_cons {entries : List (String × Entry)} {name next : String}
    {rest : List String} {e : Entry} (h : entryAt? entries (name :: next :: rest) = some e) :
    ∃ inner, entry? name entries = some (.folder inner) := by
  obtain ⟨inner, hinner⟩ : ∃ inner, entryAt? entries [name] = some (.folder inner) := by
    have hsplit : name :: next :: rest = [name] ++ ((next :: rest).dropLast) ++
        [(next :: rest).getLast (List.cons_ne_nil _ _)] := by
      rw [List.append_assoc, List.dropLast_concat_getLast, List.singleton_append]
    rw [hsplit] at h
    obtain ⟨folder, hfolder, -⟩ := exists_folder_of_entryAt? h
    exact exists_folder_of_entryAt?_append hfolder
  exact ⟨inner, hinner⟩

/-- What is put at a place further down is put into the folder that the first name leads to. -/
theorem setAt_of_folder {entries inner : List (String × Entry)} {name next : String}
    (h : entry? name entries = some (.folder inner)) (e : Entry) (rest : List String) :
    setAt e (name :: next :: rest) entries =
      setEntry name (.folder (setAt e (next :: rest) inner)) entries := by
  rw [setAt, h]
  exact List.cons_ne_nil _ _

/-- Other contents in the place of a file keep the outline of the folder. -/
theorem outlines_setAt {entries : List (String × Entry)} {names : List String} {old : Bytes}
    (h : entryAt? entries names = some (.file old)) (content : Bytes) :
    outlines (setAt (.file content) names entries) = outlines entries := by
  induction names generalizing entries with
  | nil => rfl
  | cons name rest ih =>
    rcases rest with _ | ⟨next, rest⟩
    · have hentry : entry? name entries = some (.file old) := h
      rw [setAt, outlines_setEntry]
      exact setEntry_of_entry?_eq_some (by rw [entry?_outlines, hentry]; rfl)
    · obtain ⟨inner, hinner⟩ := exists_folder_of_entryAt?_cons h
      rw [entryAt?_cons_of_folder hinner] at h
      rw [setAt_of_folder hinner, outlines_setEntry, Entry.outline, ih h]
      exact setEntry_of_entry?_eq_some (by rw [entry?_outlines, hinner]; rfl)

/-- Other contents in the place of a file stand there. -/
theorem entryAt?_setAt {entries : List (String × Entry)} {names : List String} {old : Bytes}
    (h : entryAt? entries names = some (.file old)) (content : Bytes) :
    entryAt? (setAt (.file content) names entries) names = some (.file content) := by
  induction names generalizing entries with
  | nil => exact nomatch h
  | cons name rest ih =>
    rcases rest with _ | ⟨next, rest⟩
    · exact entry?_setEntry name _ entries
    · obtain ⟨inner, hinner⟩ := exists_folder_of_entryAt?_cons h
      rw [entryAt?_cons_of_folder hinner] at h
      rw [setAt_of_folder hinner, entryAt?_cons_of_folder (entry?_setEntry name _ entries)]
      exact ih h

/-- Other contents in the place of a file keep every file that stands somewhere else. -/
theorem entryAt?_setAt_of_ne {entries : List (String × Entry)} {names others : List String}
    {old kept : Bytes} (h : entryAt? entries names = some (.file old))
    (hne : others ≠ names) (hkept : entryAt? entries others = some (.file kept))
    (content : Bytes) :
    entryAt? (setAt (.file content) names entries) others = some (.file kept) := by
  induction names generalizing entries others with
  | nil => exact nomatch h
  | cons name rest ih =>
    rcases others with _ | ⟨other, others⟩
    · exact nomatch hkept
    rcases rest with _ | ⟨next, rest⟩
    · have hentry : entry? name entries = some (.file old) := h
      rw [setAt]
      by_cases hname : other = name
      · subst hname
        rcases others with _ | ⟨next, others⟩
        · exact absurd rfl hne
        · obtain ⟨inner, hinner⟩ := exists_folder_of_entryAt?_cons hkept
          exact nomatch hentry.symm.trans hinner
      · rwa [entryAt?_cons_congr (entry?_setEntry_of_ne hname _ entries)]
    · obtain ⟨inner, hinner⟩ := exists_folder_of_entryAt?_cons h
      rw [setAt_of_folder hinner]
      by_cases hname : other = name
      · subst hname
        rw [entryAt?_cons_of_folder hinner] at h hkept
        rw [entryAt?_cons_of_folder (entry?_setEntry other _ entries)]
        exact ih h (fun heq => hne (congrArg (other :: ·) heq)) hkept
      · rwa [entryAt?_cons_congr (entry?_setEntry_of_ne hname _ entries)]

namespace Tree

variable {t other : Tree} {names : List String} {old : Bytes}

/-- Where a file stands, other contents can be put. -/
theorem withContent_eq (h : t.at? names = some (.file old)) (content : Bytes) :
    t.withContent names content =
      { t with
        top := setAt (.file content) names t.top
        regular := areRegular_setAt rfl t.regular (@isEntryName_of_at? t [] names _ h) } :=
  dif_pos ⟨rfl, @isEntryName_of_at? t [] names _ h⟩

/-- Another content of a file leaves the outline of the tree as it is. -/
theorem outline_withContent (h : t.at? names = some (.file old)) (content : Bytes) :
    (t.withContent names content).outline = t.outline := by
  simp only [outline, withContent_eq h, outlines_setAt h]

/-- Another content of a file leaves it as it is what paths are refused. -/
theorem refuses_withContent (h : t.at? names = some (.file old)) (content : Bytes) (p : Path) :
    (t.withContent names content).refuses p = t.refuses p := by
  rw [withContent_eq h]
  rfl

/-- Another content of a file leaves the folders without rights as they are. -/
theorem isLocked_withContent (h : t.at? names = some (.file old)) (content : Bytes)
    (place : List String) : (t.withContent names content).isLocked place = t.isLocked place := by
  rw [withContent_eq h]
  rfl

/-- What stands in a tree once other contents have been put into a file. -/
theorem at?_withContent (h : t.at? names = some (.file old)) (content : Bytes)
    (place : List String) :
    (t.withContent names content).at? place =
      entryAt? (setAt (.file content) names t.top) place := by
  rw [withContent_eq h]
  rfl

/-- What a path leads to in a tree with the same outline. -/
theorem exists_resolve_of_outline_eq (h : other.outline = t.outline) {p : Path}
    {place : List String} {e : Entry} (hp : t.resolve p = .ok ⟨place, e⟩) :
    ∃ e', other.resolve p = .ok ⟨place, e'⟩ ∧ e'.outline = e.outline := by
  have houtline : (other.resolve p).map Place.outline = (t.resolve p).map Place.outline := by
    rw [← resolve_outline, ← resolve_outline, h]
  rw [hp] at houtline
  rcases hother : other.resolve p with fault | ⟨place', e'⟩ <;> rw [hother] at houtline
  · exact nomatch houtline
  · obtain ⟨rfl, he⟩ := Place.mk.inj (Except.ok.inj houtline)
    exact ⟨e', rfl, he⟩

/-- A path that leads nowhere leads nowhere in a tree with the same outline. -/
theorem resolve_eq_error_of_outline_eq (h : other.outline = t.outline) {p : Path} {fault : Fault}
    (hp : t.resolve p = .error fault) : other.resolve p = .error fault := by
  have houtline : (other.resolve p).map Place.outline = (t.resolve p).map Place.outline := by
    rw [← resolve_outline, ← resolve_outline, h]
  rw [hp] at houtline
  rcases hother : other.resolve p with fault' | place <;> rw [hother] at houtline
  · exact congrArg Except.error (Except.error.inj houtline)
  · exact nomatch houtline

/-- Where a path leads is an entry of the tree, and is found there by the names of its place. -/
theorem at?_of_resolve {p : Path} {place : Place} (h : t.resolve p = .ok place) :
    t.at? place.names = some place.entry := by
  obtain ⟨-, -, -, hfrom⟩ := resolveWithin_eq_ok_iff.1 h
  exact at?_of_resolveFrom hfrom

/-- **A change of contents is seen only through paths that lead to its place**: of every other path
the file is found as it was, and so is a folder, but for what is in it. -/
theorem resolve_withContent_of_ne (h : t.at? names = some (.file old)) (content : Bytes) {p : Path}
    (hp : ∀ e, t.resolve p ≠ .ok ⟨names, e⟩) :
    (t.withContent names content).resolve p = t.resolve p ∨
      ∃ place entries others, t.resolve p = .ok ⟨place, .folder entries⟩ ∧
        (t.withContent names content).resolve p = .ok ⟨place, .folder others⟩ := by
  have houtline := outline_withContent h content
  rcases hresolve : t.resolve p with fault | ⟨place, e⟩
  · exact .inl (resolve_eq_error_of_outline_eq houtline hresolve)
  obtain ⟨e', hresolve', he⟩ := exists_resolve_of_outline_eq houtline hresolve
  rw [hresolve']
  -- The outlines agree, so the path leads to an entry of the same sort.
  cases e with
  | file kept =>
    have hne : place ≠ names := by
      rintro rfl
      exact hp _ hresolve
    have hkept : (t.withContent names content).at? place = some (.file kept) :=
      (at?_withContent h content place).trans
        (entryAt?_setAt_of_ne h hne (at?_of_resolve hresolve) content)
    obtain rfl : e' = .file kept := Option.some.inj ((at?_of_resolve hresolve').symm.trans hkept)
    exact .inl rfl
  | link target =>
    cases e' with
    | link target' => exact .inl (by rw [Entry.link.inj he])
    | file _ => exact nomatch he
    | folder _ => exact nomatch he
  | folder entries =>
    cases e' with
    | folder others => exact .inr ⟨place, entries, others, rfl, rfl⟩
    | file _ => exact nomatch he
    | link _ => exact nomatch he

/-- A path that does not lead to the changed file reads as before. -/
theorem read_withContent_of_ne (h : t.at? names = some (.file old)) (content : Bytes) {p : Path}
    (hp : ∀ e, t.resolve p ≠ .ok ⟨names, e⟩) :
    (t.withContent names content).read p = t.read p := by
  unfold read
  rw [refuses_withContent h]
  rcases resolve_withContent_of_ne h content hp with hsame | ⟨_, _, _, hfolder, hother⟩
  · simp only [hsame, isLocked_withContent h]
  · simp only [hfolder, hother, isLocked_withContent h]

/-- A path that does not lead to the changed file leads to as many octets as before. -/
theorem size_withContent_of_ne (h : t.at? names = some (.file old)) (content : Bytes) {p : Path}
    (hp : ∀ e, t.resolve p ≠ .ok ⟨names, e⟩) :
    (t.withContent names content).size p = t.size p := by
  unfold size
  rcases resolve_withContent_of_ne h content hp with hsame | ⟨_, _, _, hfolder, hother⟩
  · rw [hsame]
  · rw [hfolder, hother]

/-- Through a path that leads to its place the new contents are read, unless this is refused. -/
theorem read_withContent_of_leads (h : t.at? names = some (.file old)) (content : Bytes) {p : Path}
    {e : Entry} (hp : t.resolve p = .ok ⟨names, e⟩) :
    (t.withContent names content).read p =
      if t.refuses p || t.isLocked names then .error ⟨.refused, p.render⟩ else .ok content := by
  obtain ⟨e', hresolve, -⟩ := exists_resolve_of_outline_eq (outline_withContent h content) hp
  have hat : (t.withContent names content).at? names = some (.file content) :=
    (at?_withContent h content names).trans (entryAt?_setAt h content)
  obtain rfl : e' = .file content := Option.some.inj ((at?_of_resolve hresolve).symm.trans hat)
  unfold read
  rw [refuses_withContent h, hresolve]
  dsimp only
  rw [isLocked_withContent h]
  cases t.refuses p <;> cases t.isLocked names <;> rfl

/-- **A walk finds the same files whatever they contain.** -/
theorem walk_withContent (h : t.at? names = some (.file old)) (content : Bytes) (root : Path)
    (q : Quest) : (t.withContent names content).walk root q = t.walk root q := by
  rw [← walk_outline, outline_withContent h, walk_outline]

end Tree
end Workspace
end DeclSearch
