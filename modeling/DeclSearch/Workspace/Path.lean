/-
# Paths

A path is an anchor and a list of names.  Reading a path drops empty segments and
single dots and keeps double ones, since `a/../b` need not be `b` where links exist; a
path that starts with exactly two slashes keeps both.  The empty relative path is
written `.`.
-/

import DeclSearch.Text.Pieces

namespace DeclSearch
namespace Workspace

/-- Where a path starts: at the current directory, or at a root written with one slash
or with two. -/
inductive Anchor where
  | relative
  | root
  | doubleRoot
  deriving Repr, DecidableEq

/-- A path without empty segments and single dots. -/
structure Path where
  anchor : Anchor
  names : List String
  deriving Repr, DecidableEq

/-- Whether a text can be the name of a file. -/
def isFileName (name : String) : Bool := name ≠ "" && name ≠ "." && !name.toList.contains '/'

namespace Path

/-- The current directory. -/
def here : Path := ⟨.relative, []⟩

/-- The anchor that a text starts with. -/
def anchorOf (cs : List Char) : Anchor :=
  match (cs.takeWhile (· = '/')).length with
  | 0 => .relative
  | 2 => .doubleRoot
  | _ => .root

/-- The path that a text writes. -/
def ofString (s : String) : Path :=
  ⟨anchorOf s.toList, (Text.cut '/' s).filter fun name => name ≠ "" && name ≠ "."⟩

/-- The written form of an anchor. -/
def anchorText : Anchor → String
  | .relative => ""
  | .root => "/"
  | .doubleRoot => "//"

/-- The written form of a path. -/
def render (p : Path) : String :=
  if p.anchor = .relative ∧ p.names = [] then "."
  else anchorText p.anchor ++ Text.join "/" p.names

instance : ToString Path := ⟨render⟩

/-- The last name of a path, empty when there is none. -/
def name (p : Path) : String := p.names.getLastD ""

/-- The path without its last name. -/
def parent (p : Path) : Path := { p with names := p.names.dropLast }

/-- A name below a path. -/
def child (p : Path) (name : String) : Path := { p with names := p.names ++ [name] }

/-- A file name cut at its last dot, unless that is its first or last character: the
stem, and the suffix with the dot. -/
def splitSuffix (name : String) : String × String :=
  let cs := name.toList
  let tail := (cs.reverse.takeWhile (· ≠ '.')).reverse
  let stem := cs.take (cs.length - tail.length - 1)
  if tail.length = cs.length ∨ tail = [] ∨ stem = [] then (name, "")
  else (String.ofList stem, String.ofList ('.' :: tail))

/-- The suffix of a path's name, with its dot. -/
def suffix (p : Path) : String := (splitSuffix p.name).2

/-- The names of a path below a directory, if it lies there. -/
def below? (dir p : Path) : Option (List String) :=
  if p.anchor = dir.anchor ∧ dir.names.isPrefixOf p.names then some (p.names.drop dir.names.length)
  else none

/-- The names of a path with each double dot taken together with the name before it;
the list so far is kept last one first. -/
def foldDots (anchored : Bool) : (done : List String) → List String → List String
  | done, [] => done.reverse
  | done, ".." :: rest =>
    match done with
    | [] => foldDots anchored (if anchored then [] else [".."]) rest
    | ".." :: _ => foldDots anchored (".." :: done) rest
    | _ :: above => foldDots anchored above rest
  | done, name :: rest => foldDots anchored (name :: done) rest

/-- The path with its double dots taken out as far as the text alone allows. -/
def normal (p : Path) : Path := { p with names := foldDots (p.anchor ≠ .relative) [] p.names }

end Path
end Workspace
end DeclSearch
