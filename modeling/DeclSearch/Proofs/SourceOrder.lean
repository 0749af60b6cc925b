/-
# The order of declarations

The traversal of declarations goes through a body in the order of the nodes that can declare
something (`startsIn`): classes, functions and the names that are assigned to.  It may leave some
of them out, so the locations of what it finds are a sublist of the places where these nodes start
(`locations_sublist`), and they stand in source order if the nodes do (`pairwise_declaredIn`).
-/

import DeclSearch.Proofs.Definitions
import DeclSearch.Proofs.SourceLines
import Mathlib.Data.List.Flatten
import Mathlib.Data.Prod.Lex

namespace DeclSearch

/-- A location in its file, by line and then by column. -/
def Location.place (l : Location) : ℤ ×ₗ ℤ := toLex (l.line, l.column)

namespace Python

/-- A file keeps its positions in order. -/
theorem Position.place_inFile_lt {file : String} {p q : Position} (h : p.place < q.place) :
    (p.inFile file).place < (q.inFile file).place := by
  unfold Position.place at h
  unfold Location.place Position.inFile
  rw [Prod.Lex.toLex_lt_toLex] at h ⊢
  dsimp only at h ⊢
  omega

/-- Where the names among the targets of an assignment start. -/
def targetStarts (targets : List Expr) : List Position :=
  targets.filterMap fun
    | .name _ start => some start
    | _ => none

/-- Where the statement itself can declare something. -/
def Stmt.ownStarts : Stmt → List Position
  | .classDef start _ _ _ _ | .functionDef start _ _ _ _ => [start]
  | .annotated target _ _ => targetStarts [target]
  | .assign targets _ => targetStarts targets
  | _ => []

mutual

/-- Where the declaring nodes of a statement start, in source order: classes, functions and the
names that are assigned to. -/
def startsOf : Stmt → List Position
  | .classDef start _ _ _ body | .functionDef start _ _ _ body => start :: startsIn body
  | .annotated target _ _ => targetStarts [target]
  | .assign targets _ => targetStarts targets
  | .ifElse _ body orElse | .loop _ body orElse => startsIn body ++ startsIn orElse
  | .tryExcept _ body handlers orElse final =>
    startsIn body ++ startsInClauses handlers ++ startsIn orElse ++ startsIn final
  | .withItems _ body => startsIn body
  | .matchCases _ cases => startsInClauses cases
  | .importNames _ | .importFrom _ _ | .plain _ => []

/-- Where the declaring nodes of a run of statements start. -/
def startsIn : List Stmt → List Position
  | [] => []
  | st :: rest => startsOf st ++ startsIn rest

/-- Where the declaring nodes of clauses start. -/
def startsInClauses : List Clause → List Position
  | [] => []
  | .mk _ body :: rest => startsIn body ++ startsInClauses rest

end

/-- The starts in clauses are those in their bodies, one after another. -/
theorem startsInClauses_eq (clauses : List Clause) :
    startsInClauses clauses = (clauses.map Clause.body).flatMap startsIn := by
  induction clauses with
  | nil => rfl
  | cons clause rest ih =>
    obtain ⟨parts, body⟩ := clause
    rw [startsInClauses, ih]
    rfl

/-- The declaring nodes of a statement: its own, and then those of the bodies in it. -/
theorem startsOf_eq (st : Stmt) : startsOf st = st.ownStarts ++ st.blocks.flatMap startsIn := by
  cases st <;> simp [startsOf, startsInClauses_eq, Stmt.ownStarts, Stmt.blocks]

/-- An assignment declares names at targets of its own, in their order. -/
theorem assigned_locations_sublist (site : Site) (targets : List Expr) (typeHint : String)
    (value : Option Expr) :
    ((assigned site targets typeHint value).map Symbol.location).Sublist
      ((targetStarts targets).map (Position.inFile site.file)) := by
  unfold assigned
  split
  · exact List.nil_sublist _
  · rw [targetStarts, List.map_filterMap, List.map_filterMap]
    refine (List.filterMap_congr fun target _ => ?_) ▸ List.Sublist.refl _
    cases target <;> rfl

/-- The symbols that a statement declares by itself are located at some of its own starts, in
order. -/
theorem ownSymbols_locations_sublist (site : Site) (st : Stmt) :
    ((ownSymbols site st).map Symbol.location).Sublist
      (st.ownStarts.map (Position.inFile site.file)) := by
  cases st with
  | annotated target typeHint value => exact assigned_locations_sublist site [target] _ value
  | assign targets value => exact assigned_locations_sublist site targets "" (some value)
  | _ => exact .refl _

/-- **The locations of what a body declares** are a sublist of where its declaring nodes start, so
they come in the order of those starts. -/
theorem locations_sublist (body : List Stmt) :
    ∀ site : Site, ((declaredIn site body).map Symbol.location).Sublist
      ((startsIn body).map (Position.inFile site.file)) := by
  induction body using blocks_induction with
  | nil => exact fun site => .refl _
  | cons st rest ihblocks ihrest =>
    intro site
    -- Both go through a statement's own part, its blocks and the rest of the body in this order.
    rw [declaredIn, declaredBy_eq, startsIn, startsOf_eq]
    simp only [List.map_append, List.map_flatMap]
    refine .append (.append (ownSymbols_locations_sublist site st) ?_) (ihrest site)
    refine .trans (.flatMap_right _ fun block hblock => ?_) (st.openBlocks_sublist.flatMap _)
    have hinner := ihblocks block (st.openBlocks_sublist.subset hblock) (st.bodySite site)
    rwa [Stmt.file_bodySite] at hinner

/-- What is recorded of a body starts where one of its declaring nodes does. -/
theorem exists_start_of_mem_declaredIn {site : Site} {body : List Stmt} {s : Symbol}
    (h : s ∈ declaredIn site body) :
    ∃ start ∈ startsIn body, start.inFile site.file = s.location :=
  List.mem_map.1 ((locations_sublist body site).subset (List.mem_map_of_mem h))

/-- What a body declares stands in source order if its declaring nodes do. -/
theorem pairwise_declaredIn (site : Site) {body : List Stmt}
    (hstarts : ((startsIn body).map Position.place).Pairwise (· < ·)) :
    (declaredIn site body).Pairwise fun s t => s.location.place < t.location.place := by
  have hplaces : ((startsIn body).map (Position.inFile site.file)).Pairwise fun l l' =>
      l.place < l'.place :=
    List.pairwise_map.2 ((List.pairwise_map.1 hstarts).imp Position.place_inFile_lt)
  have hlocations := hplaces.sublist (locations_sublist body site)
  rwa [List.pairwise_map] at hlocations

/-- The own starts of a statement are among its positions. -/
theorem Stmt.ownStarts_subset (st : Stmt) : st.ownStarts ⊆ st.positions := by
  have htargets (targets : List Expr) : targetStarts targets ⊆ Expr.positionsOf targets := by
    intro p hp
    obtain ⟨target, htarget, hstart⟩ := List.mem_filterMap.1 hp
    cases target with
    | name id start =>
      cases hstart
      exact Expr.mem_positionsOf.2 ⟨_, htarget, List.mem_singleton_self _⟩
    | _ => exact nomatch hstart
  intro p hp
  cases st with
  | classDef | functionDef => simp_all [ownStarts, Stmt.positions]
  | annotated target typeHint value =>
    have hposition := htargets [target] hp
    simp_all [Stmt.positions, Expr.positionsOf]
  | assign targets value => exact List.mem_append_left _ (htargets targets hp)
  | _ => exact absurd hp List.not_mem_nil

/-- The declaring nodes of a body stand in the body. -/
theorem startsIn_subset (body : List Stmt) : startsIn body ⊆ Stmt.positionsOf body := by
  induction body using blocks_induction with
  | nil => exact List.Subset.refl _
  | cons st rest ihblocks ihrest =>
    intro p hp
    rw [startsIn, startsOf_eq, List.mem_append, List.mem_append, List.mem_flatMap] at hp
    rw [Stmt.positionsOf, List.mem_append]
    rcases hp with (hown | ⟨block, hblock, hp⟩) | hbehind
    · exact .inl (st.ownStarts_subset hown)
    · exact .inl (Stmt.positionsOf_subset hblock (ihblocks block hblock hp))
    · exact .inr (ihrest hbehind)

/-- The lines of a module's declaring nodes count from one. -/
theorem one_le_line_of_mem_startsIn {content : Text.Bytes} {body : List Stmt}
    (h : statements? content = some body) : ∀ start ∈ startsIn body, 1 ≤ start.line := by
  intro start hstart
  obtain ⟨st, hst, hposition⟩ := Stmt.mem_positionsOf.1 (startsIn_subset body hstart)
  exact (within_of_statements? h st hst start hposition).1

end Python
end DeclSearch
