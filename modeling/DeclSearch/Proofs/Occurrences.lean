/-
# What stands in a body

A statement stands in a body itself or in a body of a statement that stands there, at any depth
(`Occurs`).  The bodies in a statement are smaller than the statement, so what holds of a body
once it holds of the bodies in its statements holds of all (`blocks_induction`).

The traversal of declarations does two things with a statement: it records what the statement
itself declares, and it goes through the bodies in the statement if it looks into it at all
(`declaredBy_eq`).  It looks into every statement with bodies but loops, `match` and the `try` for
groups of exceptions (`Stmt.isOpen`).  So a body declares the symbols of the statements that stand
in it for this traversal, and no others (`exists_occurs_of_mem_declaredIn`,
`Occurs.exists_ownSymbols_subset`).
-/

import DeclSearch.Python.Declarations
import Mathlib.Data.List.Basic

namespace DeclSearch
namespace Python

/-- The body of a clause. -/
def Clause.body : Clause → List Stmt
  | .mk _ body => body

/-- The bodies in a statement. -/
def Stmt.blocks : Stmt → List (List Stmt)
  | .classDef _ _ _ _ body | .functionDef _ _ _ _ body | .withItems _ body => [body]
  | .ifElse _ body orElse | .loop _ body orElse => [body, orElse]
  | .tryExcept _ body handlers orElse final => body :: (handlers.map Clause.body ++ [orElse, final])
  | .matchCases _ cases => cases.map Clause.body
  | .annotated _ _ _ | .assign _ _ | .importNames _ | .importFrom _ _ | .plain _ => []

/-- The body of a clause is smaller than the clauses. -/
theorem sizeOf_body_lt {clause : Clause} {clauses : List Clause} (h : clause ∈ clauses) :
    sizeOf clause.body < sizeOf clauses := by
  have hclause := List.sizeOf_lt_of_mem h
  obtain ⟨parts, body⟩ := clause
  rw [Clause.mk.sizeOf_spec] at hclause
  change sizeOf body < sizeOf clauses
  omega

/-- A body in a statement is smaller than the statement. -/
theorem Stmt.sizeOf_lt_of_mem_blocks {st : Stmt} {block : List Stmt} (h : block ∈ st.blocks) :
    sizeOf block < sizeOf st := by
  cases st with
  | classDef | functionDef | withItems | ifElse | loop =>
    simp only [blocks, List.mem_cons, List.not_mem_nil, or_false] at h
    simp
    rcases h with rfl | rfl <;> omega
  | tryExcept group body handlers orElse final =>
    simp only [blocks, List.mem_cons, List.mem_append, List.mem_map, List.not_mem_nil,
      or_false] at h
    rw [tryExcept.sizeOf_spec]
    rcases h with rfl | ⟨clause, hclause, rfl⟩ | rfl | rfl
    · omega
    · have hbody := sizeOf_body_lt hclause
      omega
    · omega
    · omega
  | matchCases subject cases =>
    obtain ⟨clause, hclause, rfl⟩ := List.mem_map.1 h
    have hbody := sizeOf_body_lt hclause
    rw [matchCases.sizeOf_spec]
    omega
  | annotated | assign | importNames | importFrom | plain => exact absurd h List.not_mem_nil

/-- **Induction on bodies.** A statement in front of a body may rely on the bodies in it. Bodies
stand in statements in several ways, and what is proved by this induction need not go through them.
-/
theorem blocks_induction {P : List Stmt → Prop} (nil : P [])
    (cons : ∀ st rest, (∀ block ∈ st.blocks, P block) → P rest → P (st :: rest)) :
    (body : List Stmt) → P body
  | [] => nil
  | st :: rest => by
    refine cons st rest (fun block hblock => ?_) (blocks_induction nil cons rest)
    have hsmaller := Stmt.sizeOf_lt_of_mem_blocks hblock
    exact blocks_induction nil cons block
  termination_by body => sizeOf body
  decreasing_by
    · rw [List.cons.sizeOf_spec]
      omega
    · rw [List.cons.sizeOf_spec]
      omega

/-- Whether a statement stands in a body, at any depth inside of statements that are entered. -/
inductive Occurs (enters : Stmt → Bool) (st : Stmt) : List Stmt → Prop
  | here {body : List Stmt} (h : st ∈ body) : Occurs enters st body
  | inside {outer : Stmt} {block body : List Stmt} (houter : outer ∈ body)
      (henters : enters outer = true) (hblock : block ∈ outer.blocks)
      (h : Occurs enters st block) : Occurs enters st body

/-- Enters every statement. -/
def everyStmt (_ : Stmt) : Bool := true

/-- Whether the declarations in the bodies of a statement are looked for. -/
def Stmt.isOpen : Stmt → Bool
  | .tryExcept true _ _ _ _ | .loop _ _ _ | .matchCases _ _ => false
  | _ => true

variable {enters : Stmt → Bool} {st : Stmt}

/-- No statement occurs in a body without statements. -/
theorem not_occurs_nil : ¬ Occurs enters st [] := by
  rintro (h | ⟨houter, -, -, -⟩)
  · exact List.not_mem_nil h
  · exact List.not_mem_nil houter

/-- What stands in a body is its first statement, or stands in that one, or behind it. -/
theorem occurs_cons_iff {first : Stmt} {rest : List Stmt} :
    Occurs enters st (first :: rest) ↔
      (st = first ∨ enters first = true ∧ ∃ block ∈ first.blocks, Occurs enters st block) ∨
        Occurs enters st rest := by
  constructor
  · rintro (h | ⟨houter, henters, hblock, h⟩)
    · exact (List.mem_cons.1 h).imp .inl .here
    · rcases List.mem_cons.1 houter with rfl | houter
      · exact .inl (.inr ⟨henters, _, hblock, h⟩)
      · exact .inr (.inside houter henters hblock h)
  · rintro ((rfl | ⟨henters, block, hblock, h⟩) | h | ⟨houter, henters, hblock, h⟩)
    · exact .here List.mem_cons_self
    · exact .inside List.mem_cons_self henters hblock h
    · exact .here (List.mem_cons_of_mem _ h)
    · exact .inside (List.mem_cons_of_mem _ houter) henters hblock h

/-- **What stands in a body is reached, or something on the way is not entered.** -/
theorem Occurs.reached_or_hidden {body : List Stmt} (h : Occurs everyStmt st body) :
    Occurs enters st body ∨
      ∃ closed, Occurs enters closed body ∧ enters closed = false ∧
        ∃ block ∈ closed.blocks, Occurs everyStmt st block := by
  induction h with
  | here h => exact .inl (.here h)
  | @inside outer block body houter _ hblock h ih =>
    cases henters : enters outer with
    | false => exact .inr ⟨outer, .here houter, henters, block, hblock, h⟩
    | true =>
      rcases ih with hreached | ⟨closed, hreached, hclosed, hidden⟩
      · exact .inl (.inside houter henters hblock hreached)
      · exact .inr ⟨closed, .inside houter henters hblock hreached, hclosed, hidden⟩

/-- The symbols that a statement declares itself. -/
def ownSymbols (site : Site) : Stmt → List Symbol
  | .classDef start name decorators arguments _ =>
    [site.symbol name .classDef start (baseNames arguments) (decorators.map tailName)]
  | .functionDef start name decorators _ _ =>
    [site.symbol name (functionCategory site.scope (decorators.map tailName)) start []
      (decorators.map tailName)]
  | .annotated target typeHint value => assigned site [target] (tailName typeHint) value
  | .assign targets value => assigned site targets "" (some value)
  | _ => []

/-- The site of the bodies in a statement. -/
def Stmt.bodySite (site : Site) : Stmt → Site
  | .classDef _ name _ _ _ => site.inside name .classBody
  | .functionDef _ name _ _ _ => site.inside name .functionBody
  | _ => site

/-- The bodies in a statement in which declarations are looked for. -/
def Stmt.openBlocks (st : Stmt) : List (List Stmt) := if st.isOpen then st.blocks else []

/-- The open blocks of a statement are all of its blocks if it is open, and none otherwise. -/
theorem Stmt.mem_openBlocks {block : List Stmt} :
    block ∈ st.openBlocks ↔ st.isOpen = true ∧ block ∈ st.blocks := by
  unfold openBlocks
  split <;> simp_all

/-- The open blocks of a statement are among its blocks, in their order. -/
theorem Stmt.openBlocks_sublist (st : Stmt) : st.openBlocks.Sublist st.blocks := by
  unfold openBlocks
  split
  · exact .refl _
  · exact List.nil_sublist _

/-- The body of a statement is in the same file. -/
@[simp]
theorem Stmt.file_bodySite (site : Site) (st : Stmt) : (st.bodySite site).file = site.file := by
  cases st <;> rfl

/-- Clauses declare what their bodies declare, one after another. -/
theorem declaredInClauses_eq (site : Site) (clauses : List Clause) :
    declaredInClauses site clauses = (clauses.map Clause.body).flatMap (declaredIn site) := by
  induction clauses with
  | nil => rfl
  | cons clause rest ih =>
    obtain ⟨parts, body⟩ := clause
    rw [declaredInClauses, ih]
    rfl

/-- **What a statement declares**: its own symbols, and then what the bodies in it declare. The
traversal names each kind of statement that it enters; this says for all of them at once which
bodies these are (`Stmt.openBlocks`). -/
theorem declaredBy_eq (site : Site) (st : Stmt) :
    declaredBy site st =
      ownSymbols site st ++ st.openBlocks.flatMap (declaredIn (st.bodySite site)) := by
  cases st with
  | tryExcept group body handlers orElse final =>
    cases group with
    | true => rfl
    | false =>
      simp [declaredBy, declaredInClauses_eq, ownSymbols, Stmt.openBlocks, Stmt.isOpen,
        Stmt.blocks, Stmt.bodySite]
  | _ => simp [declaredBy, ownSymbols, Stmt.openBlocks, Stmt.isOpen, Stmt.blocks, Stmt.bodySite]

/-- A body declares what its statements declare, one after another. -/
theorem declaredIn_eq (site : Site) (body : List Stmt) :
    declaredIn site body = body.flatMap (declaredBy site) := by
  induction body with
  | nil => rfl
  | cons st rest ih => rw [declaredIn, ih, List.flatMap_cons]

/-- **What a body declares is a symbol of one of its statements**, one that the traversal gets
to. -/
theorem exists_occurs_of_mem_declaredIn {s : Symbol} (body : List Stmt) :
    ∀ site : Site, s ∈ declaredIn site body →
      ∃ st inner, Occurs Stmt.isOpen st body ∧ inner.file = site.file ∧
        s ∈ ownSymbols inner st := by
  induction body using blocks_induction with
  | nil => exact fun _ h => absurd h List.not_mem_nil
  | cons first rest ihblocks ihrest =>
    intro site h
    rw [declaredIn, declaredBy_eq, List.mem_append, List.mem_append] at h
    rcases h with (hown | hinner) | hbehind
    · exact ⟨first, site, .here List.mem_cons_self, rfl, hown⟩
    · obtain ⟨block, hblock, h⟩ := List.mem_flatMap.1 hinner
      obtain ⟨hopen, hblock⟩ := Stmt.mem_openBlocks.1 hblock
      obtain ⟨st, inner, hst, hfile, h⟩ := ihblocks block hblock (first.bodySite site) h
      rw [Stmt.file_bodySite] at hfile
      exact ⟨st, inner, .inside List.mem_cons_self hopen hblock hst, hfile, h⟩
    · obtain ⟨st, inner, hst, h⟩ := ihrest site hbehind
      exact ⟨st, inner, occurs_cons_iff.2 (.inr hst), h⟩

/-- A statement that the traversal gets to has its symbols declared, at a site of its own. -/
theorem Occurs.exists_ownSymbols_subset {body : List Stmt} (h : Occurs Stmt.isOpen st body) :
    ∀ site : Site, ∃ inner, inner.file = site.file ∧
      ownSymbols inner st ⊆ declaredIn site body := by
  induction h with
  | here h =>
    refine fun site => ⟨site, rfl, fun s hs => ?_⟩
    rw [declaredIn_eq, List.mem_flatMap]
    exact ⟨st, h, declaredBy_eq site st ▸ List.mem_append_left _ hs⟩
  | @inside outer block body houter hopen hblock _ ih =>
    intro site
    obtain ⟨inner, hfile, hsymbols⟩ := ih (outer.bodySite site)
    refine ⟨inner, hfile.trans (outer.file_bodySite site), fun s hs => ?_⟩
    rw [declaredIn_eq, List.mem_flatMap]
    exact ⟨outer, houter, declaredBy_eq site outer ▸ List.mem_append_right _
      (List.mem_flatMap.2 ⟨block, Stmt.mem_openBlocks.2 ⟨hopen, hblock⟩, hsymbols hs⟩)⟩

end Python
end DeclSearch
