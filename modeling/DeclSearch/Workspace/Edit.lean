/-
# Changing a workspace

A snapshot changes by putting an entry at a path, which makes the folders above it, and
by removing what stands at a path.  Links on the way are followed; so is a link at the
path itself when a file is put there.  Nothing is put at a name that no file system takes,
so what comes out could be on a disk again.
-/

import DeclSearch.Workspace.Tree

namespace DeclSearch
namespace Workspace

/-- The entries of a folder with `e` at `name`. -/
def setEntry (name : String) (e : Entry) : List (String × Entry) → List (String × Entry)
  | [] => [(name, e)]
  | (n, old) :: rest => if n = name then (name, e) :: rest else (n, old) :: setEntry name e rest

/-- The entries of a folder with `e` at a chain of names, making folders on the way. -/
def setAt (e : Entry) : List String → List (String × Entry) → List (String × Entry)
  | [], entries => entries
  | [name], entries => setEntry name e entries
  | name :: rest, entries =>
    let inner := match entry? name entries with
      | some (.folder inner) => inner
      | _ => []
    setEntry name (.folder (setAt e rest inner)) entries

/-- The entries of a folder without what stands at a chain of names. -/
def removeAt : List String → List (String × Entry) → List (String × Entry)
  | [], entries => entries
  | [name], entries => entries.filter (·.1 ≠ name)
  | name :: rest, entries =>
    match entry? name entries with
    | some (.folder inner) => setEntry name (.folder (removeAt rest inner)) entries
    | _ => entries

/-- What stands in a folder once an entry has been put there is that entry or stood there
before. -/
theorem eq_or_mem_of_mem_setEntry {name : String} {e : Entry} {entries : List (String × Entry)}
    {entry : String × Entry} (h : entry ∈ setEntry name e entries) :
    entry = (name, e) ∨ entry ∈ entries := by
  induction entries with
  | nil => exact .inl (List.mem_singleton.1 h)
  | cons first rest ih =>
    rw [setEntry] at h
    split at h
    · exact (List.mem_cons.1 h).imp_right (List.mem_cons_of_mem _)
    · rcases List.mem_cons.1 h with rfl | h
      · exact .inr List.mem_cons_self
      · exact (ih h).imp_right (List.mem_cons_of_mem _)

/-- Putting an entry into a folder keeps it regular. -/
theorem areRegular_setEntry {name : String} {e : Entry} {entries : List (String × Entry)}
    (h : areRegular entries) (hname : isEntryName name) (he : e.isRegular) :
    areRegular (setEntry name e entries) := by
  induction entries with
  | nil => exact areRegular_cons.2 ⟨hname, by simp, he, rfl⟩
  | cons first rest ih =>
    obtain ⟨other, old⟩ := first
    obtain ⟨hother, hdiffer, hold, hrest⟩ := areRegular_cons.1 h
    rw [setEntry]
    split
    · next hsame => exact areRegular_cons.2 ⟨hname, hsame ▸ hdiffer, he, hrest⟩
    · next hsame =>
      refine areRegular_cons.2 ⟨hother, fun entry hentry => ?_, hold, ih hrest⟩
      rcases eq_or_mem_of_mem_setEntry hentry with rfl | hentry
      · exact Ne.symm hsame
      · exact hdiffer entry hentry

/-- Putting an entry at a chain of names keeps a folder regular. -/
theorem areRegular_setAt {e : Entry} (he : e.isRegular) {names : List String}
    {entries : List (String × Entry)} (h : areRegular entries)
    (hnames : ∀ name ∈ names, isEntryName name) : areRegular (setAt e names entries) := by
  fun_induction setAt e names entries with
  | case1 => exact h
  | case2 name entries => exact areRegular_setEntry h (hnames name (by simp)) he
  | case3 entries name rest hrest inner ih =>
    obtain ⟨hname, hbelow⟩ := List.forall_mem_cons.1 hnames
    have hinner : areRegular inner := by
      unfold inner
      split
      · next hentry => exact (isRegular_of_entry?_eq_some h hentry).2
      · rfl
    exact areRegular_setEntry h hname (ih hinner hbelow)

/-- Taking an entry out of a folder keeps it regular. -/
theorem areRegular_filter {entries : List (String × Entry)} (h : areRegular entries)
    (keep : String × Entry → Bool) : areRegular (entries.filter keep) := by
  induction entries with
  | nil => rfl
  | cons entry rest ih =>
    obtain ⟨hname, hdiffer, he, hrest⟩ := areRegular_cons.1 h
    rw [List.filter_cons]
    split
    · exact areRegular_cons.2
        ⟨hname, fun other hother => hdiffer other (List.mem_filter.1 hother).1, he, ih hrest⟩
    · exact ih hrest

/-- Taking an entry out at a chain of names keeps a folder regular. -/
theorem areRegular_removeAt {names : List String} {entries : List (String × Entry)}
    (h : areRegular entries) : areRegular (removeAt names entries) := by
  fun_induction removeAt names entries with
  | case1 => exact h
  | case2 name entries => exact areRegular_filter h _
  | case3 entries name rest hrest inner hentry ih =>
    obtain ⟨hname, hinner⟩ := isRegular_of_entry?_eq_some h hentry
    exact areRegular_setEntry h hname (ih hinner)
  | case4 => exact h

namespace Tree

/-- The snapshot with an entry at a chain of names from the top, if the names and the entry
could be on a disk. -/
def placing (t : Tree) (names : List String) (e : Entry) : Tree :=
  if h : e.isRegular ∧ ∀ name ∈ names, isEntryName name then
    { t with top := setAt e names t.top, regular := areRegular_setAt h.1 t.regular h.2 }
  else t

/-- The chain of names from the top at which a path's last name stands, with the links
above it followed as far as they lead somewhere. -/
def placeOf (t : Tree) (p : Path) : List String :=
  let above := p.parent.names.foldl (fun dir name =>
    match t.resolveFrom linkLimit dir [name] with
    | .ok place => place.names
    | .error _ => dir ++ [name]) []
  match p.names.getLast? with
  | some name => above ++ [name]
  | none => above

/-- The snapshot with an entry at a path. -/
def put (t : Tree) (p : Path) (e : Entry) : Tree :=
  let spot := t.placeOf p
  let target := match t.at? spot, e with
    | some (.link _), .file _ =>
      match t.resolveFrom linkLimit spot.dropLast spot.getLast?.toList with
      | .ok place => place.names
      | .error _ => spot
    | _, _ => spot
  match t.at? target, e with
  | some (.folder _), .folder [] => t
  | _, _ => t.placing target e

/-- The snapshot without what stands at a path. -/
def remove (t : Tree) (p : Path) : Tree :=
  { t with top := removeAt (t.placeOf p) t.top, regular := areRegular_removeAt t.regular }

end Tree
end Workspace
end DeclSearch
