/-
# Paths are written faithfully

A symbol names its file by the path's text, and a preview reads the path from that text
again.  Reading gives the same path back if its names are names of files
(`Path.ofString_render`): none is empty or a single dot, and none holds a slash.  Every path that a
walk finds is of this kind, since the names in a tree could be on a disk
(`Tree.proper_of_mem_walk`).
-/

import DeclSearch.Proofs.Pieces
import DeclSearch.Workspace.Walk

namespace DeclSearch
namespace Workspace

namespace Path

/-- Whether all names of a path are names of files. -/
def Proper (p : Path) : Prop := ∀ name ∈ p.names, isFileName name

instance (p : Path) : Decidable p.Proper :=
  inferInstanceAs (Decidable (∀ name ∈ p.names, isFileName name))

/-- A child with the name of a file has a path of names if its folder has. -/
theorem Proper.child {p : Path} (h : p.Proper) {name : String} (hname : isFileName name) :
    (p.child name).Proper :=
  List.forall_mem_append.2 ⟨h, by simpa using hname⟩

/-- The folder of a path of names has a path of names. -/
theorem Proper.parent {p : Path} (h : p.Proper) : p.parent.Proper :=
  fun name hname => h name (p.names.dropLast_subset hname)

/-- The empty parts in front of the names of a path that is cut at its slashes. -/
def anchorParts : Anchor → List String
  | .relative => []
  | .root => [""]
  | .doubleRoot => ["", ""]

/-- A path with names is written with slashes between them, behind its anchor. -/
theorem render_eq_join {p : Path} (h : p.names ≠ []) :
    p.render = Text.join "/" (anchorParts p.anchor ++ p.names) := by
  rw [render, if_neg fun hrelative => h hrelative.2]
  cases p.anchor with
  | relative => simp [anchorText, anchorParts]
  | root => simp [anchorText, anchorParts, Text.join, String.intercalate_cons_of_ne_nil h]
  | doubleRoot =>
    simp only [anchorText, anchorParts, Text.join, List.cons_append, List.nil_append,
      String.intercalate_cons_of_ne_nil (List.cons_ne_nil _ _), String.intercalate_cons_of_ne_nil h]
    rw [← String.toList_inj]
    simp

/-- The names of a proper path do not start with a slash. -/
theorem takeWhile_join {names : List String} (hnames : names ≠ [])
    (h : ∀ name ∈ names, isFileName name) :
    (Text.join "/" names).toList.takeWhile (· = '/') = [] := by
  rcases names with _ | ⟨first, rest⟩
  · exact absurd rfl hnames
  · obtain ⟨hfirst, -⟩ := List.forall_mem_cons.1 h
    obtain ⟨tail, htail⟩ :
        ∃ tail, (Text.join "/" (first :: rest)).toList = first.toList ++ tail := by
      by_cases hrest : rest = []
      · exact ⟨[], by simp [Text.join, hrest]⟩
      · exact ⟨_, by rw [Text.join, String.intercalate_cons_of_ne_nil hrest, String.append_assoc,
          String.toList_append]⟩
    rw [htail]
    rcases hchars : first.toList with _ | ⟨c, chars⟩
    · rw [String.toList_eq_nil_iff.1 hchars] at hfirst
      exact absurd hfirst (by decide)
    · have hc : c ≠ '/' := by
        rintro rfl
        simp [isFileName, hchars] at hfirst
      simp [hc]

/-- The anchor of a path of names is read back from what is written. -/
theorem anchorOf_render {p : Path} (h : p.Proper) (hnames : p.names ≠ []) :
    anchorOf p.render.toList = p.anchor := by
  have hslash := takeWhile_join hnames h
  rw [render, if_neg fun hrelative => hnames hrelative.2]
  cases hanchor : p.anchor with
  | relative => simp [anchorText, anchorOf, hslash]
  | root => simp [anchorText, anchorOf, hslash]
  | doubleRoot => simp [anchorText, anchorOf, hslash]

/-- **Writing and reading a path gives the path back**, if none of its names is empty, is a dot or
holds a slash. -/
theorem ofString_render {p : Path} (h : p.Proper) : ofString p.render = p := by
  by_cases hnames : p.names = []
  · obtain ⟨anchor, names⟩ := p
    obtain rfl : names = [] := hnames
    cases anchor with
    | relative => decide +kernel
    | root => decide +kernel
    | doubleRoot => decide +kernel
  · have hparts : anchorParts p.anchor ++ p.names ≠ [] := by simp [hnames]
    have hsep : ∀ part ∈ anchorParts p.anchor ++ p.names, '/' ∉ part.toList := by
      have hanchor : ∀ part ∈ anchorParts p.anchor, '/' ∉ part.toList := by
        cases p.anchor <;> simp [anchorParts]
      refine List.forall_mem_append.2 ⟨hanchor, fun name hname => ?_⟩
      have hfile := h name hname
      simp only [isFileName, Bool.and_eq_true] at hfile
      simpa using hfile.2
    have hcut : Text.cut '/' p.render = anchorParts p.anchor ++ p.names := by
      rw [render_eq_join hnames]
      exact Text.cut_join hparts hsep
    have hempty : (anchorParts p.anchor).filter (fun name => name ≠ "" && name ≠ ".") = [] := by
      cases p.anchor <;> simp [anchorParts]
    have hkept : p.names.filter (fun name => name ≠ "" && name ≠ ".") = p.names := by
      refine List.filter_eq_self.2 fun name hname => ?_
      have hfile := h name hname
      simp only [isFileName, Bool.and_eq_true] at hfile
      simpa using hfile.1
    rw [ofString, anchorOf_render h hnames, hcut, List.filter_append, hempty, hkept,
      List.nil_append]

end Path

/-- What stands at a chain of names below a folder that could be on a disk could be there itself. -/
theorem isRegular_of_entryAt? {entries : List (String × Entry)} (h : areRegular entries)
    {names : List String} {e : Entry} (he : entryAt? entries names = some e) : e.isRegular := by
  have hstart : ∀ e ∈ some (Entry.folder entries), e.isRegular := by
    rintro _ ⟨⟩
    exact h
  unfold entryAt? at he
  -- The entry is regular wherever the chain of names starts.
  generalize some (Entry.folder entries) = start at hstart he
  induction names generalizing start with
  | nil => exact hstart e he
  | cons name names ih =>
    rw [List.foldl_cons] at he
    refine ih _ (fun inner hinner => ?_) he
    split at hinner
    · next entries => exact (isRegular_of_entry?_eq_some (hstart (.folder entries) rfl) hinner).2
    · exact absurd hinner (by simp)

namespace Tree

/-- Every entry of a tree could be on a disk. -/
theorem isRegular_of_at? {t : Tree} {names : List String} {e : Entry} (h : t.at? names = some e) :
    e.isRegular :=
  isRegular_of_entryAt? t.regular h

/-- What names lead to is an entry of the tree, if what the links lead to is. -/
theorem at?_of_resolveVia {t : Tree} {onLink : List String → List String → Except Fault Place}
    (honLink : ∀ dir names place, onLink dir names = .ok place →
      t.at? place.names = some place.entry)
    {dir names : List String} {place : Place} (h : t.resolveVia onLink dir names = .ok place) :
    t.at? place.names = some place.entry := by
  fun_induction resolveVia t onLink dir names with
  | case1 dir e he => exact Except.ok.inj h ▸ he
  | case5 _ _ _ _ _ _ ih => exact ih h
  | case6 _ _ _ _ _ _ _ ih => exact ih h
  | case8 => exact honLink _ _ _ h
  | case10 _ _ _ _ _ _ _ _ _ _ _ _ ih => exact ih h
  | case2 | case3 | case4 | case7 | case9 | case11 | case12 => exact nomatch h

/-- Where a path leads is an entry of the tree, found there by the names of its place. -/
theorem at?_of_resolveFrom {t : Tree} {links : Nat} {dir names : List String} {place : Place}
    (h : t.resolveFrom links dir names = .ok place) : t.at? place.names = some place.entry := by
  induction links generalizing dir names place with
  | zero => exact at?_of_resolveVia (fun _ _ _ hlink => absurd hlink (by simp)) h
  | succ links ih => exact at?_of_resolveVia (fun _ _ _ hlink => ih hlink) h

/-- What has to be so for a path to lead to an entry. -/
theorem resolveWithin_eq_ok_iff {t : Tree} {limit : Nat} {p : Path} {place : Place} :
    t.resolveWithin limit p = .ok place ↔
      p.hasNul = false ∧ p.render.utf8ByteSize ≤ limit ∧ p.anchor = .relative ∧
        t.resolveFrom linkLimit [] p.names = .ok place := by
  unfold resolveWithin
  split
  · next hnul => simp [hnul]
  split
  · next hlong => simp [Nat.not_le.2 hlong]
  split
  · next hnul hlong hrelative => simp [hnul, Nat.not_lt.1 hlong, hrelative]
  · next hrelative => simp [hrelative]

/-- What has to be so for the folder at a path to be listed. -/
theorem listWithin_eq_ok_iff {t : Tree} {limit : Nat} {p : Path} {dir : List String}
    {entries : List (String × Entry)} :
    t.listWithin limit p = .ok (dir, entries) ↔
      t.refuses p = false ∧ t.resolveWithin limit p = .ok ⟨dir, .folder entries⟩ ∧
        t.isLocked dir = false := by
  unfold listWithin
  dsimp only
  split
  · next hrefused => simp [hrefused]
  · next hrefused =>
    rw [and_iff_right (by simpa using hrefused)]
    split
    · next names inner hresolve =>
      rw [hresolve]
      cases hlocked : t.isLocked names with
      | true =>
        simp only [if_true, reduceCtorEq, Except.ok.injEq, Place.mk.injEq, Entry.folder.injEq,
          false_iff]
        rintro ⟨⟨rfl, -⟩, hopen⟩
        exact absurd (hlocked.symm.trans hopen) (by decide)
      | false =>
        simp only [Bool.false_eq_true, if_false, Except.ok.injEq, Prod.mk.injEq, Place.mk.injEq,
          Entry.folder.injEq, iff_self_and]
        rintro ⟨rfl, -⟩
        exact hlocked
    · next e hother hresolve =>
      rw [hresolve]
      simp only [reduceCtorEq, Except.ok.injEq, false_iff]
      rintro ⟨rfl, -⟩
      exact hother _ _ rfl
    · next hresolve => simp [hresolve]

/-- What a file that can be read leads to. -/
theorem exists_of_read {t : Tree} {p : Path} {content : Text.Bytes} (h : t.read p = .ok content) :
    t.refuses p = false ∧ ∃ names, t.resolve p = .ok ⟨names, .file content⟩ ∧
      t.isLocked names = false := by
  unfold read at h
  dsimp only at h
  split at h
  · exact nomatch h
  · next hrefuses =>
    refine ⟨by simpa using hrefuses, ?_⟩
    split at h
    · next place hresolve =>
      obtain ⟨names, e⟩ := place
      split at h
      · exact nomatch h
      · next hopen =>
        cases e with
        | file other =>
          obtain rfl := Except.ok.inj h
          exact ⟨names, hresolve, by simpa using hopen⟩
        | folder entries => exact nomatch h
        | link target => exact nomatch h
    · exact nomatch h

/-- What can be listed is a folder of the tree. -/
theorem at?_of_list {t : Tree} {limit : Nat} {p : Path} {dir : List String}
    {entries : List (String × Entry)} (h : t.listWithin limit p = .ok (dir, entries)) :
    t.at? dir = some (.folder entries) := by
  obtain ⟨-, hresolve, -⟩ := listWithin_eq_ok_iff.1 h
  obtain ⟨-, -, -, hfrom⟩ := resolveWithin_eq_ok_iff.1 hresolve
  exact at?_of_resolveFrom hfrom

/-- Arranging the paths of branches loses none and adds none. -/
theorem mem_arrange_iff {branches : List Branch} {p : Path} :
    p ∈ arrange branches ↔ ∃ b ∈ branches, p ∈ b.paths := by
  unfold arrange
  simp only [List.mem_flatMap, List.mem_append, List.mem_filter, List.mem_mergeSort]
  refine exists_congr fun b => and_congr_left fun _ => ?_
  cases b.isFolder <;> simp

mutual

/-- What a walk finds at an entry is proper if the path there is and the entry could be on a
disk. -/
theorem proper_of_mem_branch {t : Tree} {q : Quest} {limit : Nat} {path : Path}
    (hpath : path.Proper) (name : String) : (e : Entry) → e.isRegular →
      ∀ p ∈ (t.branch q limit path name e).paths, p.Proper
  | .file _, _, p, hp => by
    rw [branch] at hp
    split at hp
    · exact List.mem_singleton.1 hp ▸ hpath
    · exact nomatch hp
  | .link _, _, p, hp => by
    rw [branch] at hp
    split at hp
    · exact List.mem_singleton.1 hp ▸ hpath
    · exact nomatch hp
  | .folder entries, he, p, hp => by
    rw [branch] at hp
    split at hp
    · exact nomatch hp
    · obtain ⟨b, hb, hp⟩ := mem_arrange_iff.1 hp
      exact proper_of_mem_branches hpath entries he b hb p hp

/-- What a walk finds in a folder is proper. -/
theorem proper_of_mem_branches {t : Tree} {q : Quest} {limit : Nat} {path : Path}
    (hpath : path.Proper) :
    (entries : List (String × Entry)) → areRegular entries →
      ∀ b ∈ t.branches q limit path entries, ∀ p ∈ b.paths, p.Proper
  | [], _, b, hb => by
    rw [branches] at hb
    exact nomatch hb
  | (name, e) :: rest, he, b, hb => by
    obtain ⟨hname, -, hfirst, hrest⟩ := areRegular_cons.1 he
    rw [branches, List.mem_cons] at hb
    rcases hb with rfl | hb
    · exact proper_of_mem_branch (hpath.child (isEntryName_iff.1 hname).1) name e hfirst
    · exact proper_of_mem_branches hpath rest hrest b hb

end

/-- **A walk finds proper paths** below a proper root. -/
theorem proper_of_mem_walk {t : Tree} {root : Path} (hroot : root.Proper) {q : Quest} :
    ∀ p ∈ t.walk root q, p.Proper := by
  intro p hp
  unfold walk at hp
  split at hp
  · next dir entries hlist =>
    obtain ⟨b, hb, hp⟩ := mem_arrange_iff.1 hp
    exact proper_of_mem_branches hroot entries (isRegular_of_at? (at?_of_list hlist)) b hb p hp
  · exact nomatch hp

end Tree
end Workspace
end DeclSearch
