/-
# Folders and the paths that lead to them

In every folder of a tree the names differ, and a file system takes each of them, so a path can be
taken apart.  Where its first names lead to a folder, through whatever links, the names behind
these lead down from there; if they go through folders alone, they lead to the folder that stands
below by just these names, unless one of the folders on the way is locked
(`Tree.resolveVia_of_at?`).  So a folder that a walk comes to is found again by its own path
(`Tree.eq_of_listWithin_descend`).
-/

import DeclSearch.Proofs.Paths
import Mathlib.Data.List.Induction

namespace DeclSearch
namespace Workspace

namespace Path

/-- The path that goes on with some names. -/
def descend (p : Path) (names : List String) : Path := { p with names := p.names ++ names }

/-- Whether a path is a directory or lies in it. -/
def AtOrAbove (dir p : Path) : Prop := (dir.below? p).isSome

/-- Whether a path lies in a directory, on any depth. -/
def Above (dir p : Path) : Prop := dir.AtOrAbove p ∧ dir ≠ p

instance (dir p : Path) : Decidable (dir.AtOrAbove p) :=
  inferInstanceAs (Decidable ((dir.below? p).isSome = true))

instance (dir p : Path) : Decidable (dir.Above p) :=
  inferInstanceAs (Decidable (dir.AtOrAbove p ∧ dir ≠ p))

/-- Without names a path stays where it is. -/
@[simp]
theorem descend_nil (p : Path) : p.descend [] = p := by simp [descend]

/-- Names are followed one list behind the other. -/
@[simp]
theorem descend_descend (p : Path) (names more : List String) :
    (p.descend names).descend more = p.descend (names ++ more) := by simp [descend]

/-- A child further down is reached by one name more. -/
@[simp]
theorem descend_child (p : Path) (names : List String) (name : String) :
    (p.descend names).child name = p.descend (names ++ [name]) := by simp [descend, child]

/-- The way down from a child starts with the name of the child. -/
@[simp]
theorem child_descend (p : Path) (name : String) (names : List String) :
    (p.child name).descend names = p.descend (name :: names) := by simp [descend, child]

/-- The folder of a child is the path that it is a child of. -/
@[simp]
theorem parent_child (p : Path) (name : String) : (p.child name).parent = p := by
  simp [parent, child]

/-- The folder of what the last name leads to is what the names in front of it lead to. -/
@[simp]
theorem parent_descend_append (p : Path) (names : List String) (name : String) :
    (p.descend (names ++ [name])).parent = p.descend names := by
  rw [← descend_child, parent_child]

/-- Different names lead to different paths below one folder. -/
theorem descend_injective {p : Path} {names others : List String}
    (h : p.descend names = p.descend others) : names = others :=
  List.append_cancel_left (congrArg Path.names h)

/-- The names that lead down from a folder can be told from the path again. -/
theorem below?_descend (dir : Path) (names : List String) :
    dir.below? (dir.descend names) = some names := by
  rw [below?, if_pos ⟨rfl, List.isPrefixOf_iff_prefix.2 (List.prefix_append _ _)⟩]
  simp [descend]

/-- What lies in a directory is its path with names behind it. -/
theorem atOrAbove_iff {dir p : Path} : dir.AtOrAbove p ↔ ∃ names, p = dir.descend names := by
  constructor
  · intro h
    unfold AtOrAbove below? at h
    split at h
    · next hbelow =>
      obtain ⟨names, hnames⟩ := List.isPrefixOf_iff_prefix.1 hbelow.2
      exact ⟨names, by rw [descend, ← hbelow.1, hnames]⟩
    · simp at h
  · rintro ⟨names, rfl⟩
    rw [AtOrAbove, below?_descend]
    rfl

/-- A folder is above what names lead to from there, or the same where there are none. -/
theorem atOrAbove_descend (dir : Path) (names : List String) : dir.AtOrAbove (dir.descend names) :=
  atOrAbove_iff.2 ⟨names, rfl⟩

/-- A path is at or above itself. -/
theorem AtOrAbove.refl (p : Path) : p.AtOrAbove p := atOrAbove_iff.2 ⟨[], (descend_nil p).symm⟩

/-- Of two directories that one path lies in, one lies in the other. -/
theorem AtOrAbove.total {a b c : Path} (ha : a.AtOrAbove c) (hb : b.AtOrAbove c) :
    a.AtOrAbove b ∨ b.AtOrAbove a := by
  obtain ⟨names, rfl⟩ := atOrAbove_iff.1 ha
  obtain ⟨others, h⟩ := atOrAbove_iff.1 hb
  obtain ⟨hanchor, hnames⟩ : a.anchor = b.anchor ∧ a.names ++ names = b.names ++ others :=
    Path.mk.inj h
  have hsplit {x y : Path} (hxy : x.anchor = y.anchor) (hfront : x.names <+: y.names) :
      x.AtOrAbove y := by
    obtain ⟨rest, hrest⟩ := hfront
    exact atOrAbove_iff.2 ⟨rest, by rw [descend, hxy, hrest]⟩
  rcases List.prefix_or_prefix_of_prefix (List.prefix_append a.names names)
    (hnames ▸ List.prefix_append b.names others) with h | h
  · exact .inl (hsplit hanchor h)
  · exact .inr (hsplit hanchor.symm h)

/-- A folder is above what some names lead to from there, unless there are none. -/
theorem above_descend_iff {dir : Path} {names : List String} :
    dir.Above (dir.descend names) ↔ names ≠ [] := by
  refine ⟨?_, fun h => ⟨atOrAbove_descend dir names, fun he => h ?_⟩⟩
  · rintro ⟨-, hne⟩ rfl
    exact hne (descend_nil dir).symm
  · exact descend_injective (p := dir) (he.symm.trans (descend_nil dir).symm)

/-- A path that goes on is written with no fewer bytes. -/
theorem size_render_le_descend {p : Path} (hnames : p.names ≠ []) (names : List String) :
    p.render.utf8ByteSize ≤ (p.descend names).render.utf8ByteSize := by
  rcases names with _ | ⟨name, rest⟩
  · exact Nat.le_of_eq (by rw [descend_nil])
  have hmore : (p.descend (name :: rest)).names ≠ [] := by simp [descend]
  have hjoin : "/".intercalate (p.names ++ name :: rest) = _ :=
    String.intercalate_append_of_ne_nil hnames (List.cons_ne_nil name rest)
  rw [render, render, if_neg fun h => hnames h.2, if_neg fun h => hmore h.2]
  simp only [descend, Text.join, hjoin, String.utf8ByteSize_append]
  omega

/-- No path is above itself. -/
theorem not_above_self (p : Path) : ¬ p.Above p := fun h => h.2 rfl

end Path

/-- The names in a well-formed folder are all different. -/
theorem nodup_names_of_areRegular {entries : List (String × Entry)} (h : areRegular entries) :
    (entries.map Prod.fst).Nodup := by
  induction entries with
  | nil => exact List.nodup_nil
  | cons entry rest ih =>
    obtain ⟨-, hname, -, hrest⟩ := areRegular_cons.1 h
    rw [List.map_cons, List.nodup_cons]
    refine ⟨fun hmem => ?_, ih hrest⟩
    obtain ⟨other, hother, he⟩ := List.mem_map.1 hmem
    exact hname other hother he

/-- The entry of a name is the one that stands there. -/
theorem mem_iff_entry?_eq_some {entries : List (String × Entry)} (h : areRegular entries)
    {name : String} {e : Entry} : (name, e) ∈ entries ↔ entry? name entries = some e := by
  induction entries with
  | nil => exact iff_of_false List.not_mem_nil nofun
  | cons entry rest ih =>
    obtain ⟨other, first⟩ := entry
    obtain ⟨-, hname, -, hrest⟩ := areRegular_cons.1 h
    rw [List.mem_cons, entry?, List.lookup_cons]
    by_cases he : name = other
    · subst he
      have hnot : (name, e) ∉ rest := fun hmem => hname _ hmem rfl
      simp [hnot, eq_comm]
    · rw [show (name == other) = false by simpa using he]
      simpa [he, entry?] using ih hrest

/-- What stands at a chain of names with one more behind it. -/
theorem entryAt?_append_singleton (entries : List (String × Entry)) (dir : List String)
    (name : String) :
    entryAt? entries (dir ++ [name]) =
      match entryAt? entries dir with
      | some (.folder inner) => entry? name inner
      | _ => none := by
  unfold entryAt?
  rw [List.foldl_append]
  rfl

/-- A name that stands for something stands in a folder. -/
theorem exists_folder_of_entryAt? {entries : List (String × Entry)} {dir : List String}
    {name : String} {e : Entry} (h : entryAt? entries (dir ++ [name]) = some e) :
    ∃ inner, entryAt? entries dir = some (.folder inner) ∧ entry? name inner = some e := by
  rw [entryAt?_append_singleton] at h
  split at h
  · next inner hdir => exact ⟨inner, hdir, h⟩
  · exact nomatch h

/-- What is on the way to a folder is a folder. -/
theorem exists_folder_of_entryAt?_append {entries : List (String × Entry)}
    {dir names : List String} {inner : List (String × Entry)}
    (h : entryAt? entries (dir ++ names) = some (.folder inner)) :
    ∃ above, entryAt? entries dir = some (.folder above) := by
  induction names using List.reverseRecOn generalizing inner with
  | nil => exact ⟨inner, by simpa using h⟩
  | append_singleton names last ih =>
    rw [← List.append_assoc] at h
    obtain ⟨above, habove, -⟩ := exists_folder_of_entryAt? h
    exact ih habove

namespace Tree

variable {t : Tree}

/-- What is at a place further down is an entry of the folder at the place above it. -/
theorem at?_append_singleton (t : Tree) (dir : List String) (name : String) :
    t.at? (dir ++ [name]) =
      match t.at? dir with
      | some (.folder entries) => entry? name entries
      | _ => none :=
  entryAt?_append_singleton t.top dir name

/-- What is at a place below another one is an entry of a folder there. -/
theorem exists_folder_of_at? {dir : List String} {name : String} {e : Entry}
    (h : t.at? (dir ++ [name]) = some e) :
    ∃ entries, t.at? dir = some (.folder entries) ∧ entry? name entries = some e :=
  exists_folder_of_entryAt? h

/-- Above a folder there are folders only. -/
theorem exists_folder_of_at?_append {dir names : List String} {inner : List (String × Entry)}
    (h : t.at? (dir ++ names) = some (.folder inner)) :
    ∃ entries, t.at? dir = some (.folder entries) :=
  exists_folder_of_entryAt?_append h

/-- The names behind a folder that lead to something can name entries. -/
theorem isEntryName_of_at? {dir names : List String} {e : Entry}
    (h : t.at? (dir ++ names) = some e) : ∀ name ∈ names, isEntryName name := by
  induction names using List.reverseRecOn generalizing e with
  | nil => simp
  | append_singleton names name ih =>
    rw [← List.append_assoc] at h
    obtain ⟨entries, hdir, hentry⟩ := exists_folder_of_at? h
    refine List.forall_mem_append.2 ⟨ih hdir, ?_⟩
    simpa using (isRegular_of_entry?_eq_some (isRegular_of_at? hdir) hentry).1

/-- Whether one of the folders is locked that the names behind a folder are looked up in. -/
def isBarred (t : Tree) (dir : List String) : List String → Bool
  | [] => false
  | name :: names => t.isLocked dir || isBarred t (dir ++ [name]) names

/-- **Names that lead down from a folder** are resolved one by one, and no link is followed. -/
theorem resolveVia_of_at? (onLink : List String → List String → Except Fault Place)
    {dir names : List String} {inner : List (String × Entry)}
    (h : t.at? (dir ++ names) = some (.folder inner)) :
    t.resolveVia onLink dir names =
      if t.isBarred dir names then .error .refused else .ok ⟨dir ++ names, .folder inner⟩ := by
  induction names generalizing dir with
  | nil =>
    rw [List.append_nil] at h ⊢
    rw [resolveVia, h]
    rfl
  | cons name names ih =>
    have hnext : t.at? (dir ++ [name] ++ names) = some (.folder inner) := by simpa using h
    obtain ⟨below, hbelow⟩ := exists_folder_of_at?_append hnext
    obtain ⟨entries, hdir, hentry⟩ := exists_folder_of_at? hbelow
    obtain ⟨hfile, hdots, -, hsize⟩ := isEntryName_iff.1
      (isRegular_of_entry?_eq_some (isRegular_of_at? hdir) hentry).1
    have hdot : name ≠ "." := by
      rintro rfl
      exact absurd hfile (by decide)
    rw [resolveVia, hdir, isBarred]
    dsimp only
    rw [if_neg (Nat.not_lt.2 hsize), if_neg hdot, if_neg hdots, hentry]
    dsimp only
    rw [ih hnext, List.append_assoc, List.singleton_append]
    cases t.isLocked dir <;> rfl

/-- What names come to with more names behind them, if what these come to does not depend on how
links are followed. -/
theorem resolveVia_append {onLink : List String → List String → Except Fault Place}
    {place : Place} {target : Except Fault Place} {more : List String}
    (hmore : ∀ onLink, t.resolveVia onLink place.names more = target)
    (honLink : ∀ dir names, onLink dir names = .ok place → onLink dir (names ++ more) = target)
    {dir names : List String} (h : t.resolveVia onLink dir names = .ok place) :
    t.resolveVia onLink dir (names ++ more) = target := by
  fun_induction resolveVia t onLink dir names with
  | case1 dir e he =>
    obtain rfl := Except.ok.inj h
    exact hmore onLink
  | case5 dir rest entries hdir hopen hsize ih => simpa [resolveVia, hdir, hopen, hsize] using ih h
  | case6 dir rest entries hdir hopen hsize hdot ih =>
    simpa [resolveVia, hdir, hopen, hsize] using ih h
  | case8 dir name rest entries hdir hopen hsize hdot hdots target' hentry hrelative =>
    simpa [resolveVia, hdir, hopen, hsize, hdot, hdots, hentry, hrelative] using honLink _ _ h
  | case10 dir name rest entries hdir hopen hsize hdot hdots e hlink hentry ih =>
    cases e with
    | link target => exact absurd rfl (hlink target)
    | file content => simpa [resolveVia, hdir, hopen, hsize, hdot, hdots, hentry] using ih h
    | folder inner => simpa [resolveVia, hdir, hopen, hsize, hdot, hdots, hentry] using ih h
  | case2 | case3 | case4 | case7 | case9 | case11 | case12 => exact nomatch h

/-- Where some names lead to a place, more names lead where these lead from that place, with as many
links left as may still be followed. -/
theorem resolveFrom_append {place : Place} {target : Except Fault Place} {more : List String}
    (hmore : ∀ onLink, t.resolveVia onLink place.names more = target) {links : Nat}
    {dir names : List String} (h : t.resolveFrom links dir names = .ok place) :
    t.resolveFrom links dir (names ++ more) = target := by
  induction links generalizing dir names with
  | zero => exact resolveVia_append hmore (fun _ _ hlink => absurd hlink (by simp)) h
  | succ links ih => exact resolveVia_append hmore (fun _ _ hlink => ih hlink) h

variable {limit other : Nat} {p : Path} {dir names : List String}
  {entries inner : List (String × Entry)}

/-- **A folder below a path is found by its own path**: what this lists is what stands there. -/
theorem eq_of_listWithin_descend (h : t.listWithin other p = .ok (dir, entries))
    (hinner : t.at? (dir ++ names) = some (.folder inner))
    {listing : List String × List (String × Entry)}
    (hlist : t.listWithin limit (p.descend names) = .ok listing) :
    listing = (dir ++ names, inner) := by
  obtain ⟨place, found⟩ := listing
  obtain ⟨-, hresolve, -⟩ := listWithin_eq_ok_iff.1 h
  obtain ⟨-, -, -, hfrom⟩ := resolveWithin_eq_ok_iff.1 hresolve
  obtain ⟨-, hdescend, -⟩ := listWithin_eq_ok_iff.1 hlist
  obtain ⟨-, -, -, hgoes⟩ := resolveWithin_eq_ok_iff.1 hdescend
  have hlead := resolveFrom_append (fun onLink => resolveVia_of_at? onLink hinner) hfrom
  rw [show p.names ++ names = (p.descend names).names from rfl, hgoes] at hlead
  split at hlead
  · exact nomatch hlead
  · obtain ⟨rfl, he⟩ := Place.mk.inj (Except.ok.inj hlead)
    rw [Entry.folder.inj he]

/-- Which paths are too long is all that the limit decides. -/
theorem resolveWithin_of_le {place : Place} (h : t.resolveWithin limit p = .ok place)
    (hsize : p.render.utf8ByteSize ≤ other) : t.resolveWithin other p = .ok place := by
  obtain ⟨hnul, -, hrelative, hfrom⟩ := resolveWithin_eq_ok_iff.1 h
  exact resolveWithin_eq_ok_iff.2 ⟨hnul, hsize, hrelative, hfrom⟩

/-- A folder that is listed within one limit is listed within another that its path keeps to. -/
theorem listWithin_of_le {listing : List String × List (String × Entry)}
    (h : t.listWithin limit p = .ok listing) (hsize : p.render.utf8ByteSize ≤ other) :
    t.listWithin other p = .ok listing := by
  obtain ⟨hrefused, hresolve, hopen⟩ := listWithin_eq_ok_iff.1 h
  exact listWithin_eq_ok_iff.2 ⟨hrefused, resolveWithin_of_le hresolve hsize, hopen⟩

/-- The path of a folder that is listed is not too long. -/
theorem size_le_of_listWithin {listing : List String × List (String × Entry)}
    (h : t.listWithin limit p = .ok listing) : p.render.utf8ByteSize ≤ limit := by
  obtain ⟨-, hresolve, -⟩ := listWithin_eq_ok_iff.1 h
  exact (resolveWithin_eq_ok_iff.1 hresolve).2.1

end Tree
end Workspace
end DeclSearch
