/-
# The positions in a syntax tree

What a module declares and what it mentions are two traversals of one tree.  `Stmt.positions` lists
where its names, attributes, imports, classes and functions stand, and the declarations make up no
other place: each of them starts at a position of the statement that declares it, which is one of
the body that the statement stands in (`exists_of_mem_declaredIn`).
-/

import DeclSearch.Proofs.Occurrences

namespace DeclSearch
namespace Python

mutual

/-- The positions in an expression. -/
def Expr.positions : Expr → List Position
  | .name _ start => [start]
  | .attribute value _ stop => stop :: value.positions
  | .call function arguments => function.positions ++ Expr.positionsOf arguments
  | .subscript value index => value.positions ++ Expr.positionsOf index
  | .starred value => value.positions
  | .keyword _ value => value.positions
  | .tuple items => Expr.positionsOf items
  | .list items => Expr.positionsOf items
  | .other parts => Expr.positionsOf parts

/-- The positions in some expressions. -/
def Expr.positionsOf : List Expr → List Position
  | [] => []
  | e :: rest => e.positions ++ Expr.positionsOf rest

end

mutual

/-- The positions in a statement. -/
def Stmt.positions : Stmt → List Position
  | .classDef start _ decorators arguments body =>
    start :: (Expr.positionsOf decorators ++ Expr.positionsOf arguments ++ Stmt.positionsOf body)
  | .functionDef start _ decorators parts body =>
    start :: (Expr.positionsOf decorators ++ Expr.positionsOf parts ++ Stmt.positionsOf body)
  | .annotated target typeHint value =>
    target.positions ++ typeHint.positions ++ Expr.positionsOf value.toList
  | .assign targets value => Expr.positionsOf targets ++ value.positions
  | .ifElse test body orElse =>
    test.positions ++ Stmt.positionsOf body ++ Stmt.positionsOf orElse
  | .tryExcept _ body handlers orElse final =>
    Stmt.positionsOf body ++ Clause.positionsOf handlers ++ Stmt.positionsOf orElse ++
      Stmt.positionsOf final
  | .withItems parts body => Expr.positionsOf parts ++ Stmt.positionsOf body
  | .loop parts body orElse =>
    Expr.positionsOf parts ++ Stmt.positionsOf body ++ Stmt.positionsOf orElse
  | .matchCases subject cases => subject.positions ++ Clause.positionsOf cases
  | .importNames names => names.map Import.start
  | .importFrom origin names => origin.start :: names.map Import.start
  | .plain parts => Expr.positionsOf parts

/-- The positions in a run of statements. -/
def Stmt.positionsOf : List Stmt → List Position
  | [] => []
  | s :: rest => s.positions ++ Stmt.positionsOf rest

/-- The positions in clauses. -/
def Clause.positionsOf : List Clause → List Position
  | [] => []
  | .mk parts body :: rest =>
    Expr.positionsOf parts ++ Stmt.positionsOf body ++ Clause.positionsOf rest

end

/-- The positions in a clause. -/
def Clause.positions : Clause → List Position
  | .mk parts body => Expr.positionsOf parts ++ Stmt.positionsOf body

/-- The positions in expressions are those in each of them. -/
@[simp]
theorem Expr.mem_positionsOf {p : Position} {l : List Expr} :
    p ∈ Expr.positionsOf l ↔ ∃ e ∈ l, p ∈ e.positions := by
  induction l with
  | nil => simp [positionsOf]
  | cons e rest ih => simp [positionsOf, ih]

/-- The positions in statements are those in each of them. -/
@[simp]
theorem Stmt.mem_positionsOf {p : Position} {l : List Stmt} :
    p ∈ Stmt.positionsOf l ↔ ∃ s ∈ l, p ∈ s.positions := by
  induction l with
  | nil => simp [positionsOf]
  | cons s rest ih => simp [positionsOf, ih]

/-- The positions in clauses are those in each of them. -/
@[simp]
theorem Clause.mem_positionsOf {p : Position} {l : List Clause} :
    p ∈ Clause.positionsOf l ↔ ∃ c ∈ l, p ∈ c.positions := by
  induction l with
  | nil => simp [positionsOf]
  | cons c rest ih =>
    obtain ⟨parts, body⟩ := c
    rw [positionsOf, List.mem_append, ih, ← positions, List.exists_mem_cons_iff]

/-- Whether a symbol is declared at one of some positions, in a body of a file. -/
def Symbol.DeclaredAt (file : String) (positions : List Position) (s : Symbol) : Prop :=
  ∃ (site : Site) (name : String) (category : Category) (start : Position)
      (bases decorators : List String),
    site.file = file ∧ start ∈ positions ∧ s = site.symbol name category start bases decorators

/-- A symbol that is declared at some positions is declared at more of them. -/
theorem Symbol.DeclaredAt.mono {file : String} {positions more : List Position} {s : Symbol}
    (h : Symbol.DeclaredAt file positions s) (hmore : positions ⊆ more) :
    Symbol.DeclaredAt file more s := by
  obtain ⟨site, name, category, start, bases, decorators, hfile, hstart, hs⟩ := h
  exact ⟨site, name, category, start, bases, decorators, hfile, hmore hstart, hs⟩

/-- An assignment declares names at targets of its own. -/
theorem declaredAt_of_mem_assigned {site : Site} {targets : List Expr} {typeHint : String}
    {value : Option Expr} {s : Symbol} (h : s ∈ assigned site targets typeHint value) :
    Symbol.DeclaredAt site.file (Expr.positionsOf targets) s := by
  unfold assigned at h
  split at h
  · exact absurd h List.not_mem_nil
  · next category _ =>
    obtain ⟨target, htarget, hs⟩ := List.mem_filterMap.1 h
    split at hs
    · next id start =>
      refine ⟨site, id, category, start, [], [], rfl, ?_, (Option.some.inj hs).symm⟩
      exact Expr.mem_positionsOf.2 ⟨_, htarget, by simp [Expr.positions]⟩
    · exact absurd hs (by simp)

/-- The positions in a block of a statement are positions in the statement. -/
theorem Stmt.positionsOf_subset {st : Stmt} {block : List Stmt} (h : block ∈ st.blocks) :
    Stmt.positionsOf block ⊆ st.positions := by
  have hclause {clause : Clause} {clauses : List Clause} (hclause : clause ∈ clauses) :
      Stmt.positionsOf clause.body ⊆ Clause.positionsOf clauses := by
    obtain ⟨parts, body⟩ := clause
    exact fun p hp => Clause.mem_positionsOf.2 ⟨_, hclause, List.mem_append_right _ hp⟩
  intro p hp
  cases st with
  | classDef | functionDef | withItems | ifElse | loop =>
    simp only [blocks, List.mem_cons, List.not_mem_nil, or_false] at h
    rcases h with rfl | rfl <;> simp [Stmt.positions, Stmt.mem_positionsOf.1 hp]
  | tryExcept group body handlers orElse final =>
    simp only [blocks, List.mem_cons, List.mem_append, List.mem_map, List.not_mem_nil,
      or_false] at h
    rcases h with rfl | ⟨clause, hmem, rfl⟩ | rfl | rfl
    · simp [Stmt.positions, Stmt.mem_positionsOf.1 hp]
    · simp [Stmt.positions, Clause.mem_positionsOf.1 (hclause hmem hp)]
    · simp [Stmt.positions, Stmt.mem_positionsOf.1 hp]
    · simp [Stmt.positions, Stmt.mem_positionsOf.1 hp]
  | matchCases subject cases =>
    obtain ⟨clause, hmem, rfl⟩ := List.mem_map.1 h
    simp [Stmt.positions, Clause.mem_positionsOf.1 (hclause hmem hp)]
  | annotated | assign | importNames | importFrom | plain => exact absurd h List.not_mem_nil

/-- The positions in a statement are positions in the bodies that it stands in. -/
theorem Occurs.positions_subset {enters : Stmt → Bool} {st : Stmt} {body : List Stmt}
    (h : Occurs enters st body) : st.positions ⊆ Stmt.positionsOf body := by
  induction h with
  | here h => exact fun p hp => Stmt.mem_positionsOf.2 ⟨st, h, hp⟩
  | inside houter _ hblock _ ih =>
    exact fun p hp => Stmt.mem_positionsOf.2
      ⟨_, houter, Stmt.positionsOf_subset hblock (ih hp)⟩

/-- A statement declares its own symbols at its positions. -/
theorem declaredAt_of_mem_ownSymbols {site : Site} {st : Stmt} {s : Symbol}
    (h : s ∈ ownSymbols site st) : Symbol.DeclaredAt site.file st.positions s := by
  cases st with
  | classDef start name decorators arguments body =>
    obtain rfl := List.mem_singleton.1 h
    exact ⟨site, name, .classDef, start, _, _, rfl, List.mem_cons_self, rfl⟩
  | functionDef start name decorators parts body =>
    obtain rfl := List.mem_singleton.1 h
    exact ⟨site, name, _, start, _, _, rfl, List.mem_cons_self, rfl⟩
  | annotated target typeHint value =>
    refine (declaredAt_of_mem_assigned h).mono fun p hp => ?_
    rw [Expr.positionsOf, Expr.positionsOf, List.append_nil] at hp
    exact List.mem_append_left _ (List.mem_append_left _ hp)
  | assign targets value =>
    exact (declaredAt_of_mem_assigned h).mono (List.subset_append_left _ _)
  | _ => exact absurd h List.not_mem_nil

/-- **A body declares symbols at its own positions**, all of them in the file at hand. -/
theorem exists_of_mem_declaredIn (site : Site) (body : List Stmt) :
    ∀ s ∈ declaredIn site body, Symbol.DeclaredAt site.file (Stmt.positionsOf body) s := by
  intro s h
  obtain ⟨st, inner, hst, hfile, hs⟩ := exists_occurs_of_mem_declaredIn body site h
  rw [← hfile]
  exact (declaredAt_of_mem_ownSymbols hs).mono hst.positions_subset

/-- A symbol of a module is the module's own, or it is declared in the body. -/
theorem Module.eq_symbol_or_mem_declaredIn {m : Module} {s : Symbol} (h : s ∈ m.declarations) :
    s = m.symbol ∨ s ∈ declaredIn ⟨m.path.render, m.name, .moduleBody⟩ m.body := by
  rw [Module.declarations, List.mem_append] at h
  refine h.imp_left fun hself => ?_
  split at hself
  · exact absurd hself List.not_mem_nil
  · exact List.mem_singleton.1 hself

/-- A module declares its symbols in its own file. -/
theorem Module.file_of_mem_declarations {m : Module} {s : Symbol} (h : s ∈ m.declarations) :
    s.location.file = m.path.render := by
  rcases eq_symbol_or_mem_declaredIn h with rfl | h
  · rfl
  · obtain ⟨site, name, category, start, bases, decorators, hfile, -, rfl⟩ :=
      exists_of_mem_declaredIn _ _ s h
    exact hfile

end Python
end DeclSearch
