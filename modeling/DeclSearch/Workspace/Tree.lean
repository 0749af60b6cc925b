/-
# Workspace trees

A workspace is a snapshot of the tree below the current directory: regular files,
folders and symbolic links.  In every folder the names differ, and a file system takes
each of them; a snapshot carries the proof of that (`Tree.regular`).

A path is resolved name by name from the top; a link is followed by resolving its target
in its place, at most `linkLimit` times.  A target that ends in a slash or a single dot
leads to folders only.  Double dots at the top stay there, and nothing outside the
snapshot exists.

There are two ways to be refused.  A locked entry is one without any rights: it is found,
but it cannot be opened or listed, and where it is a folder nothing can be looked up in
it.  A path on the refused list cannot be opened or listed by its text alone, before
anything is looked up, but all below it can be.
-/

import DeclSearch.Text.Utf8
import DeclSearch.Text.Quoted
import DeclSearch.Workspace.Path

namespace DeclSearch
namespace Workspace

open Text (Bytes)

/-- What a name in a folder stands for. -/
inductive Entry where
  | file (content : Bytes)
  | folder (entries : List (String × Entry))
  | link (target : String)
  deriving Repr

/-- The longest name, in bytes. -/
def longestName : Nat := 255

/-- Whether a text can name an entry of a folder on a disk: it names a file and no step
upwards, holds no NUL, and is not too long. -/
def isEntryName (name : String) : Bool :=
  isFileName name && name ≠ ".." && !name.toList.contains '\x00' &&
    name.utf8ByteSize ≤ longestName

mutual

/-- Whether all folders below an entry could be on a disk. -/
def Entry.isRegular : Entry → Bool
  | .folder entries => areRegular entries
  | _ => true

/-- Whether the entries of a folder, and all below them, could be on a disk: their names can
name entries, and they differ. -/
def areRegular : List (String × Entry) → Bool
  | [] => true
  | (name, e) :: rest =>
    isEntryName name && rest.all (·.1 ≠ name) && e.isRegular && areRegular rest

end

/-- The name of an entry is one part of a path, no step upwards, without NUL and not too long. -/
theorem isEntryName_iff {name : String} :
    isEntryName name ↔ isFileName name ∧ name ≠ ".." ∧ '\x00' ∉ name.toList ∧
      name.utf8ByteSize ≤ longestName := by
  simp [isEntryName, and_assoc]

/-- Whether some entries could be on a disk, said of the first of them and the others. -/
theorem areRegular_cons {name : String} {e : Entry} {rest : List (String × Entry)} :
    areRegular ((name, e) :: rest) ↔
      isEntryName name ∧ (∀ entry ∈ rest, entry.1 ≠ name) ∧ e.isRegular ∧ areRegular rest := by
  rw [areRegular]
  simp only [Bool.and_eq_true, List.all_eq_true, decide_eq_true_eq, and_assoc]

/-- A snapshot of the current directory: what stands at the top, the paths that may not be
opened or listed, and the places of the entries without any rights. -/
structure Tree where
  top : List (String × Entry)
  refused : List Path := []
  locked : List (List String) := []
  regular : areRegular top
  deriving Repr

/-- Why a path cannot be used. -/
inductive Fault where
  | notFound
  | refused
  | notAFolder
  | isAFolder
  | nameTooLong
  | tooManyLinks
  | nulInPath
  deriving Repr, DecidableEq

/-- The number by which a fault is known; a path that holds a NUL is turned down before
it is looked up, and that has none. -/
def Fault.number? : Fault → Option Nat
  | .notFound => some 2
  | .refused => some 13
  | .notAFolder => some 20
  | .isAFolder => some 21
  | .nameTooLong => some 36
  | .tooManyLinks => some 40
  | .nulInPath => none

/-- The wording of a fault. -/
def Fault.text : Fault → String
  | .notFound => "No such file or directory"
  | .refused => "Permission denied"
  | .notAFolder => "Not a directory"
  | .isAFolder => "Is a directory"
  | .nameTooLong => "File name too long"
  | .tooManyLinks => "Too many levels of symbolic links"
  | .nulInPath => "embedded null byte"

/-- A failed access to a path. -/
structure AccessError where
  fault : Fault
  path : String
  deriving Repr, DecidableEq

/-- The wording of a failed access. -/
def AccessError.message (e : AccessError) : String :=
  match e.fault.number? with
  | some number =>
    "[Errno " ++ toString number ++ "] " ++ e.fault.text ++ ": " ++ Text.quoted e.path
  | none => e.fault.text

/-- Whether a path holds a NUL. -/
def Path.hasNul (p : Path) : Bool := p.names.any fun name => name.toList.contains '\x00'

/-- Turns down a path that holds a NUL. -/
def Path.checkNul (p : Path) : Except AccessError Unit :=
  if p.hasNul then .error ⟨.nulInPath, p.render⟩ else .ok ()

/-- The entry of a name. -/
def entry? (name : String) (entries : List (String × Entry)) : Option Entry := entries.lookup name

/-- What stands under a name in a folder that could be on a disk could be there itself. -/
theorem isRegular_of_entry?_eq_some {entries : List (String × Entry)} (h : areRegular entries)
    {name : String} {e : Entry} (he : entry? name entries = some e) :
    isEntryName name ∧ e.isRegular := by
  induction entries with
  | nil => exact nomatch he
  | cons entry rest ih =>
    obtain ⟨other, first⟩ := entry
    obtain ⟨hname, -, hfirst, hrest⟩ := areRegular_cons.1 h
    unfold entry? at he
    rw [List.lookup_cons] at he
    split at he
    · next hsame =>
      obtain rfl := Option.some.inj he
      exact ⟨(beq_iff_eq.1 hsame) ▸ hname, hfirst⟩
    · exact ih hrest he

/-- The entry at a chain of names from a folder with these entries, where no link is
followed. -/
def entryAt? (entries : List (String × Entry)) (names : List String) : Option Entry :=
  names.foldl (fun e name =>
    match e with
    | some (.folder inner) => entry? name inner
    | _ => none) (some (.folder entries))

namespace Tree

/-- A snapshot of nothing. -/
def empty : Tree where
  top := []
  regular := rfl

/-- The entry at a chain of names from the top, where no link is followed. -/
def at? (t : Tree) (names : List String) : Option Entry := entryAt? t.top names

/-- Whether the entry at a chain of names from the top is without rights. -/
def isLocked (t : Tree) (names : List String) : Bool := t.locked.contains names

/-- An entry that is no link, with the chain of names that leads to it from the top. -/
structure Place where
  names : List String
  entry : Entry
  deriving Repr

/-- How many links may be followed on the way to an entry. -/
def linkLimit : Nat := 40

/-- The longest path, in bytes. -/
def longestPath : Nat := 4095

/-- The names that stand for the target of a link; a single dot, or nothing behind the
last slash, is the name of the folder itself. -/
def targetNames (target : String) : List String :=
  let pieces := Text.cut '/' target
  pieces.filter (· ≠ "") ++ (if pieces.getLast? = some "" then ["."] else [])

/-- Resolves names from the folder at `dir`; `onLink` resolves what is left once a link
has been replaced by its target. -/
def resolveVia (t : Tree) (onLink : List String → List String → Except Fault Place) :
    (dir : List String) → List String → Except Fault Place
  | dir, [] =>
    match t.at? dir with
    | some e => .ok ⟨dir, e⟩
    | none => .error .notFound
  | dir, name :: rest =>
    match t.at? dir with
    | some (.folder entries) =>
      if t.isLocked dir then .error .refused
      else if longestName < name.utf8ByteSize then .error .nameTooLong
      else if name = "." then resolveVia t onLink dir rest
      else if name = ".." then resolveVia t onLink dir.dropLast rest
      else match entry? name entries with
        | none => .error .notFound
        | some (.link target) =>
          if Path.anchorOf target.toList = .relative then onLink dir (targetNames target ++ rest)
          else .error .notFound
        | some _ => resolveVia t onLink (dir ++ [name]) rest
    | some _ => .error .notAFolder
    | none => .error .notFound

/-- Resolves names from the folder at `dir`, following at most `links` links. -/
def resolveFrom (t : Tree) : (links : Nat) → (dir names : List String) → Except Fault Place
  | 0 => resolveVia t fun _ _ => .error .tooManyLinks
  | links + 1 => resolveVia t (resolveFrom t links)

/-- The entry that a path leads to, where paths of more than `limit` bytes are too long. -/
def resolveWithin (t : Tree) (limit : Nat) (p : Path) : Except Fault Place :=
  if p.hasNul then .error .nulInPath
  else if limit < p.render.utf8ByteSize then .error .nameTooLong
  else if p.anchor = .relative then resolveFrom t linkLimit [] p.names else .error .notFound

/-- The entry that a path leads to. -/
def resolve (t : Tree) (p : Path) : Except Fault Place := t.resolveWithin longestPath p

/-- Whether access to a path is refused. -/
def refuses (t : Tree) (p : Path) : Bool := t.refused.contains p.normal

/-- Whether a path leads to a folder.  Of a path that is too long, or that goes through a
folder where nothing can be looked up, this cannot be said. -/
def isFolder (t : Tree) (p : Path) : Except AccessError Bool :=
  match t.resolve p with
  | .ok ⟨_, .folder _⟩ => .ok true
  | .error .nameTooLong => .error ⟨.nameTooLong, p.render⟩
  | .error .refused => .error ⟨.refused, p.render⟩
  | _ => .ok false

/-- The content of the file that a path leads to. -/
def read (t : Tree) (p : Path) : Except AccessError Bytes :=
  let fail (fault : Fault) : Except AccessError Bytes := .error ⟨fault, p.render⟩
  if t.refuses p then fail .refused
  else match t.resolve p with
    | .ok place =>
      if t.isLocked place.names then fail .refused
      else match place.entry with
        | .file content => .ok content
        | _ => fail .isAFolder
    | .error fault => fail fault

/-- The size in bytes of the file that a path leads to; it may be asked even where
reading is refused. -/
def size (t : Tree) (p : Path) : Except AccessError Nat :=
  match t.resolve p with
  | .ok ⟨_, .file content⟩ => .ok content.length
  | .ok _ => .ok 0
  | .error fault => .error ⟨fault, p.render⟩

/-- The names in the folder that a path leads to, with the chain of names of the folder,
where paths of more than `limit` bytes are too long. -/
def listWithin (t : Tree) (limit : Nat) (p : Path) :
    Except AccessError (List String × List (String × Entry)) :=
  let fail (fault : Fault) : Except AccessError (List String × List (String × Entry)) :=
    .error ⟨fault, p.render⟩
  if t.refuses p then fail .refused
  else match t.resolveWithin limit p with
    | .ok ⟨names, .folder entries⟩ =>
      if t.isLocked names then fail .refused else .ok (names, entries)
    | .ok _ => fail .notAFolder
    | .error fault => fail fault

/-- The names in the folder that a path leads to, with the chain of names of the folder. -/
def list (t : Tree) (p : Path) : Except AccessError (List String × List (String × Entry)) :=
  t.listWithin longestPath p

end Tree
end Workspace
end DeclSearch
