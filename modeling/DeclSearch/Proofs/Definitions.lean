/-
# Which definitions are recorded

A class or a function is recorded under its name at the place where its statement starts, if the
traversal gets to the statement, and nothing else is recorded as a class or a function
(`definition_recorded_iff`).  It gets to every statement that does not stand inside a loop, a
`match` or a `try` for groups of exceptions; what stands there is left out
(`definition_in_loop_is_left_out`).
-/

import DeclSearch.Proofs.Occurrences

namespace DeclSearch

/-- Whether the category of a symbol is one of some. -/
def Symbol.IsOf (s : Symbol) (categories : List Python.Category) : Prop :=
  ∃ c ∈ categories, s.category = c.text

/-- What classes and functions are recorded as. -/
def Python.definitionCategories : List Python.Category := [.classDef, .function, .method, .property]

/-- Whether a symbol stands for a class or a function of a name at a location. -/
def Symbol.Defines (s : Symbol) (name : String) (location : Location) : Prop :=
  s.IsOf Python.definitionCategories ∧ s.name = name ∧ s.location = location

namespace Python

/-- A category is read back from its text. -/
theorem Category.ofText?_text (c : Category) : ofText? c.text = some c := by
  cases c <;> rfl

/-- No two categories have one word. -/
theorem Category.text_injective : Function.Injective Category.text := by
  intro c c' h
  exact Option.some.inj (c.ofText?_text ▸ c'.ofText?_text ▸ congrArg ofText? h)

/-- The symbol that a body makes has the category that it is made with. -/
theorem isOf_symbol_iff {site : Site} {name : String} {c : Category} {start : Position}
    {bases decorators : List String} {categories : List Category} :
    (site.symbol name c start bases decorators).IsOf categories ↔ c ∈ categories := by
  constructor
  · rintro ⟨c', hc', htext⟩
    rwa [Category.text_injective htext]
  · exact fun hc => ⟨c, hc, rfl⟩

/-- The location of a position in a file. -/
def Position.inFile (file : String) (p : Position) : Location := ⟨file, p.line, p.column⟩

/-- The name of a class or a function that a statement defines, and where the statement starts. -/
def Stmt.definition? : Stmt → Option (String × Position)
  | .classDef start name _ _ _ | .functionDef start name _ _ _ => some (name, start)
  | _ => none

/-- What a function is recorded as is a function, a method or a property. -/
theorem functionCategory_mem (scope : Scope) (decorators : List String) :
    functionCategory scope decorators ∈ [Category.function, .method, .property] := by
  unfold functionCategory
  repeat' split
  all_goals decide

/-- An assigned name is recorded as no class and as no function. -/
theorem assignmentCategory?_notMem {scope : Scope} {typeHint factory : String} {c : Category}
    (h : assignmentCategory? scope typeHint factory = some c) : c ∉ definitionCategories := by
  unfold assignmentCategory? at h
  repeat' split at h
  all_goals cases h
  all_goals decide

/-- What an assignment declares is of the category that it makes. -/
theorem exists_of_mem_assigned {site : Site} {targets : List Expr} {typeHint : String}
    {value : Option Expr} {s : Symbol} (h : s ∈ assigned site targets typeHint value) :
    ∃ (name : String) (c : Category) (start : Position),
      assignmentCategory? site.scope typeHint (factoryName value) = some c ∧
        s = site.symbol name c start [] [] := by
  unfold assigned at h
  split at h
  · exact absurd h List.not_mem_nil
  · next c hc =>
    obtain ⟨target, -, hs⟩ := List.mem_filterMap.1 h
    cases target with
    | name id start => exact ⟨id, c, start, hc, (Option.some.inj hs).symm⟩
    | _ => exact nomatch hs

/-- An assignment declares no class and no function. -/
theorem not_isOf_of_mem_assigned {site : Site} {targets : List Expr} {typeHint : String}
    {value : Option Expr} {s : Symbol} (h : s ∈ assigned site targets typeHint value) :
    ¬ s.IsOf definitionCategories := by
  obtain ⟨name, c, start, hc, rfl⟩ := exists_of_mem_assigned h
  rw [isOf_symbol_iff]
  exact assignmentCategory?_notMem hc

/-- In one file different positions are different locations. -/
theorem Position.inFile_inj {file : String} {p q : Position} :
    p.inFile file = q.inFile file ↔ p = q := by
  obtain ⟨line, column⟩ := p
  obtain ⟨line', column'⟩ := q
  simp only [inFile, Location.mk.injEq, true_and, Int.natCast_inj, Position.mk.injEq]

/-- The symbol of a class or a function defines its own name at its own start, and nothing else. -/
theorem defines_symbol_iff {site : Site} {n name : String} {c : Category}
    (hc : c ∈ definitionCategories) {p start : Position} {bases decorators : List String} :
    (site.symbol n c p bases decorators).Defines name (start.inFile site.file) ↔
      (n, p) = (name, start) := by
  rw [Symbol.Defines, isOf_symbol_iff, and_iff_right hc, Prod.mk.injEq]
  exact and_congr_right fun _ => Position.inFile_inj

/-- A statement declares the definition that it is, if it is one. -/
theorem exists_defines_ownSymbols_iff {site : Site} {st : Stmt} {name : String}
    {start : Position} :
    (∃ s ∈ ownSymbols site st, s.Defines name (start.inFile site.file)) ↔
      st.definition? = some (name, start) := by
  cases st with
  | classDef p n decorators arguments body =>
    simp [ownSymbols, defines_symbol_iff (by decide : Category.classDef ∈ definitionCategories),
      Stmt.definition?]
  | functionDef p n decorators parts body =>
    have hc : functionCategory site.scope (decorators.map tailName) ∈ definitionCategories :=
      List.mem_cons_of_mem _ (functionCategory_mem _ _)
    simp [ownSymbols, defines_symbol_iff hc, Stmt.definition?]
  | annotated | assign =>
    refine iff_of_false ?_ (by simp [Stmt.definition?])
    rintro ⟨s, hs, hdefines⟩
    exact not_isOf_of_mem_assigned hs hdefines.1
  | _ => simp [ownSymbols, Stmt.definition?]

/-- **Which definitions of a body are recorded**: those that the traversal gets to. It enters
statements of some kinds only (`Stmt.isOpen`), and it records every class and every function that it
meets. -/
theorem exists_defines_declaredIn_iff {name : String} {start : Position} (body : List Stmt)
    (site : Site) : (∃ s ∈ declaredIn site body, s.Defines name (start.inFile site.file)) ↔
      ∃ st, Occurs Stmt.isOpen st body ∧ st.definition? = some (name, start) := by
  constructor
  · rintro ⟨s, hs, hdefines⟩
    obtain ⟨st, inner, hst, hfile, hown⟩ := exists_occurs_of_mem_declaredIn body site hs
    rw [← hfile] at hdefines
    exact ⟨st, hst, exists_defines_ownSymbols_iff.1 ⟨s, hown, hdefines⟩⟩
  · rintro ⟨st, hst, hdefinition⟩
    obtain ⟨inner, hfile, hsymbols⟩ := hst.exists_ownSymbols_subset site
    have hown : ∃ s ∈ ownSymbols inner st, s.Defines name (start.inFile inner.file) :=
      exists_defines_ownSymbols_iff.2 hdefinition
    obtain ⟨s, hs, hdefines⟩ := hown
    exact ⟨s, hsymbols hs, hfile ▸ hdefines⟩

/-- Whether a module records a class or a function of a name at a position. -/
def Module.Records (m : Module) (name : String) (start : Position) : Prop :=
  ∃ s ∈ m.declarations, s.Defines name (start.inFile m.path.render)

/-- The symbol of a module stands for no class and no function. -/
theorem Module.not_isOf_symbol (m : Module) : ¬ m.symbol.IsOf definitionCategories := by
  unfold Module.symbol
  rintro ⟨c, hc, htext⟩
  dsimp only at htext
  split at htext
  all_goals
    rw [← Category.text_injective htext] at hc
    exact absurd hc (by decide)

/-- **Which definitions of a module are recorded.**  A class or a function of a name is recorded at
a position if and only if one that the traversal gets to starts there.  So every class and every
function of the module, however deep it stands, is recorded under its name where it starts, unless
it stands in a body of a statement that is not looked into: a loop, a `match` or a `try` for groups
of exceptions. -/
theorem definition_recorded_iff (m : Module) :
    (∀ name start, m.Records name start ↔
      ∃ st, Occurs Stmt.isOpen st m.body ∧ st.definition? = some (name, start)) ∧
    ∀ st, Occurs everyStmt st m.body → ∀ name start, st.definition? = some (name, start) →
      m.Records name start ∨
        ∃ closed, Occurs Stmt.isOpen closed m.body ∧ closed.isOpen = false ∧
          ∃ block ∈ closed.blocks, Occurs everyStmt st block := by
  have hrecords (name : String) (start : Position) : m.Records name start ↔
      ∃ st, Occurs Stmt.isOpen st m.body ∧ st.definition? = some (name, start) := by
    rw [← exists_defines_declaredIn_iff m.body ⟨m.path.render, m.name, .moduleBody⟩]
    unfold Module.Records Module.declarations
    constructor
    · rintro ⟨s, hs, hdefines⟩
      refine ⟨s, (List.mem_append.1 hs).resolve_left fun hself => ?_, hdefines⟩
      split at hself
      · exact List.not_mem_nil hself
      · exact m.not_isOf_symbol (List.mem_singleton.1 hself ▸ hdefines.1)
    · rintro ⟨s, hs, hdefines⟩
      exact ⟨s, List.mem_append_right _ hs, hdefines⟩
  refine ⟨hrecords, fun st hst name start hdefinition => ?_⟩
  exact hst.reached_or_hidden.imp_left fun hreached =>
    (hrecords name start).2 ⟨st, hreached, hdefinition⟩

/-- Whether a body is a loop over nothing but a class `A`, which starts in the second line. -/
def isLoopOverClassA : List Stmt → Bool
  | [.loop _ [.classDef start name _ _ _] _] => decide (start = ⟨2, 4⟩ ∧ name = "A")
  | _ => false

/-- A class in a loop is no symbol of its module: the loop is not looked into. -/
theorem definition_in_loop_is_left_out :
    ∃ body st, statements? (Text.bytesOf "for i in x:\n    class A: pass\n".toList) = some body ∧
      Occurs everyStmt st body ∧ st.definition? = some ("A", ⟨2, 4⟩) ∧
      ∀ s ∈ Module.declarations ⟨⟨.relative, ["m.py"]⟩, "m", body, false⟩, s.name ≠ "A" := by
  have hparsed : (statements? (Text.bytesOf "for i in x:\n    class A: pass\n".toList)).map
      isLoopOverClassA = some true := by decide +kernel
  obtain ⟨body, hbody, hshape⟩ := Option.map_eq_some_iff.1 hparsed
  unfold isLoopOverClassA at hshape
  split at hshape
  · next start name decorators arguments inner orElse =>
    obtain ⟨rfl, rfl⟩ := of_decide_eq_true hshape
    refine ⟨_, .classDef ⟨2, 4⟩ "A" decorators arguments inner, hbody, ?_, rfl, ?_⟩
    · exact .inside List.mem_cons_self rfl List.mem_cons_self (.here List.mem_cons_self)
    · intro s hs
      -- The module itself is its only symbol.
      rw [List.mem_singleton.1 hs]
      unfold Module.symbol
      dsimp only
      decide +kernel
  · exact nomatch hshape

end Python
end DeclSearch
