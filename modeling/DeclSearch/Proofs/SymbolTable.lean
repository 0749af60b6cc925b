/-
# Symbol tables

The symbols of a module stand in source order, each behind the symbol whose name qualifies its own
(`declarations_wellFormed`).

A declaration stands in the body of the module, or in that of a class or a function which has just
been recorded (`Site.Anchored`).  This is what the traversal preserves: it holds of the bodies in a
statement once the statement's own symbols are recorded (`Site.Anchored.body`), and more symbols in
front do not hurt.  What can be declared in a body tells what the symbol has to belong to
(`Scope.categories`): parts of a class stand in the body of a class, however many conditionals are
in between.
-/

import DeclSearch.Proofs.SourceOrder

namespace DeclSearch
namespace Python

/-- What can be declared in a body. -/
def Scope.categories : Scope → List Category
  | .classBody => [.classDef, .method, .property, .field]
  | .moduleBody | .functionBody => [.classDef, .function, .alias, .record]

/-- A class may stand in every scope. -/
theorem classDef_mem_categories (scope : Scope) : Category.classDef ∈ scope.categories := by
  cases scope <;> decide

/-- What a function is recorded as may stand in its scope. -/
theorem functionCategory_mem_categories (scope : Scope) (decorators : List String) :
    functionCategory scope decorators ∈ scope.categories := by
  cases scope with
  | classBody =>
    unfold functionCategory
    dsimp only
    split
    · exact (by decide : Category.property ∈ Scope.classBody.categories)
    · exact (by decide : Category.method ∈ Scope.classBody.categories)
  | moduleBody => exact (by decide : Category.function ∈ Scope.moduleBody.categories)
  | functionBody => exact (by decide : Category.function ∈ Scope.functionBody.categories)

/-- What an assigned name is recorded as may stand in its scope. -/
theorem assignmentCategory?_mem_categories {scope : Scope} {typeHint factory : String}
    {c : Category} (h : assignmentCategory? scope typeHint factory = some c) :
    c ∈ scope.categories := by
  unfold assignmentCategory? at h
  cases scope
  case classBody =>
    rw [if_pos rfl] at h
    cases h
    decide
  all_goals
    rw [if_neg (by decide)] at h
    split at h
    · cases h
      decide
    · split at h
      · cases h
        decide
      · exact nomatch h

/-- A statement declares in a body what can be declared there. -/
theorem exists_of_mem_ownSymbols {site : Site} {st : Stmt} {s : Symbol}
    (h : s ∈ ownSymbols site st) :
    ∃ (name : String) (c : Category) (start : Position) (bases decorators : List String),
      c ∈ site.scope.categories ∧ s = site.symbol name c start bases decorators := by
  have hassigned {targets : List Expr} {typeHint : String} {value : Option Expr}
      (h : s ∈ assigned site targets typeHint value) :
      ∃ (name : String) (c : Category) (start : Position) (bases decorators : List String),
        c ∈ site.scope.categories ∧ s = site.symbol name c start bases decorators := by
    obtain ⟨name, c, start, hc, hs⟩ := exists_of_mem_assigned h
    exact ⟨name, c, start, [], [], assignmentCategory?_mem_categories hc, hs⟩
  cases st with
  | classDef start name decorators arguments body =>
    exact ⟨name, _, start, _, _, classDef_mem_categories _, List.mem_singleton.1 h⟩
  | functionDef start name decorators parts body =>
    exact ⟨name, _, start, _, _, functionCategory_mem_categories _ _, List.mem_singleton.1 h⟩
  | annotated target typeHint value => exact hassigned h
  | assign targets value => exact hassigned h
  | _ => exact absurd h List.not_mem_nil

/-- Whether one of some symbols that is of one of some categories has a qualified name. -/
def Qualifies (table : List Symbol) (categories : List Category) (qualified : String) : Prop :=
  ∃ s ∈ table, s.IsOf categories ∧ s.qualifiedName = qualified

/-- What qualifies names by some symbols does so by more symbols, and for more categories. -/
theorem Qualifies.mono {table more : List Symbol} {categories others : List Category}
    {qualified : String} (h : Qualifies table categories qualified) (hmore : table ⊆ more)
    (hothers : categories ⊆ others) : Qualifies more others qualified := by
  obtain ⟨s, hs, ⟨c, hc, htext⟩, hqualified⟩ := h
  exact ⟨s, hmore hs, ⟨c, hothers hc, htext⟩, hqualified⟩

/-- Whether a symbol belongs to what a qualifier names: the module, or a symbol in front of it.  A
part of a class belongs to a class, and everything else but a class belongs to the module or to a
function. -/
structure Symbol.Placed (root : String) (earlier : List Symbol) (s : Symbol) (qualifier : String) :
    Prop where
  qualified : s.qualifiedName = qualifier ++ "." ++ s.name
  named : qualifier = root ∨ Qualifies earlier definitionCategories qualifier
  member : s.IsOf [.method, .property, .field] → Qualifies earlier [.classDef] qualifier
  free : s.IsOf [.function, .alias, .record] →
    qualifier = root ∨ Qualifies earlier [.function, .method, .property] qualifier

/-- Whether a body is that of the module, or that of a class or a function among the symbols in
front. -/
def Site.Anchored (root : String) (earlier : List Symbol) (site : Site) : Prop :=
  match site.scope with
  | .moduleBody => site.qualifier = root
  | .classBody => Qualifies earlier [.classDef] site.qualifier
  | .functionBody => Qualifies earlier [.function, .method, .property] site.qualifier

variable {root : String} {earlier more : List Symbol}

/-- A symbol that belongs to some symbols belongs to more of them. -/
theorem Symbol.Placed.mono {s : Symbol} {qualifier : String}
    (h : Symbol.Placed root earlier s qualifier) (hmore : earlier ⊆ more) :
    Symbol.Placed root more s qualifier where
  qualified := h.qualified
  named := h.named.imp_right fun hnamed => hnamed.mono hmore (List.Subset.refl _)
  member hs := (h.member hs).mono hmore (List.Subset.refl _)
  free hs := (h.free hs).imp_right fun hnamed => hnamed.mono hmore (List.Subset.refl _)

/-- A body that belongs to some symbols belongs to more of them. -/
theorem Site.Anchored.mono {site : Site} (h : Site.Anchored root earlier site)
    (hmore : earlier ⊆ more) : Site.Anchored root more site := by
  obtain ⟨file, qualifier, scope⟩ := site
  cases scope with
  | moduleBody => exact h
  | classBody | functionBody => exact Qualifies.mono h hmore (List.Subset.refl _)

/-- What can be declared in a body belongs to what the body is that of. -/
theorem Site.Anchored.placed {site : Site} (h : Site.Anchored root earlier site) {name : String}
    {c : Category} (hc : c ∈ site.scope.categories) {start : Position}
    {bases decorators : List String} :
    Symbol.Placed root earlier (site.symbol name c start bases decorators) site.qualifier := by
  obtain ⟨file, qualifier, scope⟩ := site
  cases scope with
  | moduleBody =>
    have hnone : ∀ c ∈ Scope.moduleBody.categories,
        c ∉ [Category.method, .property, .field] := by decide
    exact ⟨rfl, .inl h, fun hmember => absurd (isOf_symbol_iff.1 hmember) (hnone c hc),
      fun _ => .inl h⟩
  | classBody =>
    have hnone : ∀ c ∈ Scope.classBody.categories,
        c ∉ [Category.function, .alias, .record] := by decide
    exact ⟨rfl, .inr (Qualifies.mono h (List.Subset.refl _) (by decide)), fun _ => h,
      fun hfree => absurd (isOf_symbol_iff.1 hfree) (hnone c hc)⟩
  | functionBody =>
    have hnone : ∀ c ∈ Scope.functionBody.categories,
        c ∉ [Category.method, .property, .field] := by decide
    exact ⟨rfl, .inr (Qualifies.mono h (List.Subset.refl _) (by decide)),
      fun hmember => absurd (isOf_symbol_iff.1 hmember) (hnone c hc), fun _ => .inr h⟩

/-- **The bodies in a statement are those of something in front**, once the statement's own symbols
are recorded: of a class or a function it is its own symbol, and of every other statement what its
body is that of. -/
theorem Site.Anchored.body {site : Site} (h : Site.Anchored root earlier site) (st : Stmt) :
    Site.Anchored root (earlier ++ ownSymbols site st) (st.bodySite site) := by
  cases st with
  | classDef start name decorators arguments body =>
    exact ⟨_, List.mem_append_right _ List.mem_cons_self, isOf_symbol_iff.2 (by decide), rfl⟩
  | functionDef start name decorators parts body =>
    exact ⟨_, List.mem_append_right _ List.mem_cons_self,
      isOf_symbol_iff.2 (functionCategory_mem _ _), rfl⟩
  | _ => exact h.mono (List.subset_append_left _ _)

/-- Whether every symbol of a table belongs to the module or to a symbol in front of it: one of
some earlier ones, or of those in the table. -/
def EachPlaced (root : String) : List Symbol → List Symbol → Prop
  | _, [] => True
  | earlier, s :: rest =>
    (∃ qualifier, Symbol.Placed root earlier s qualifier) ∧ EachPlaced root (earlier ++ [s]) rest

/-- A table is in place if its front is, and its back behind the front. -/
theorem eachPlaced_append {l l' : List Symbol} :
    EachPlaced root earlier (l ++ l') ↔
      EachPlaced root earlier l ∧ EachPlaced root (earlier ++ l) l' := by
  induction l generalizing earlier with
  | nil => simp [EachPlaced]
  | cons s rest ih => simp [EachPlaced, ih, and_assoc]

/-- A table that is in place behind some symbols is so behind more of them. -/
theorem EachPlaced.mono {l : List Symbol} (h : EachPlaced root earlier l)
    (hmore : earlier ⊆ more) : EachPlaced root more l := by
  induction l generalizing earlier more with
  | nil => trivial
  | cons s rest ih =>
    obtain ⟨⟨qualifier, hs⟩, hrest⟩ := h
    exact ⟨⟨qualifier, hs.mono hmore⟩, ih hrest (List.append_subset.2
      ⟨List.subset_append_of_subset_left _ hmore, List.subset_append_right _ _⟩)⟩

/-- Symbols that belong to those in front of the table need none from the table itself. -/
theorem eachPlaced_of_forall {l : List Symbol}
    (h : ∀ s ∈ l, ∃ qualifier, Symbol.Placed root earlier s qualifier) :
    EachPlaced root earlier l := by
  induction l generalizing earlier with
  | nil => trivial
  | cons s rest ih =>
    obtain ⟨hs, hrest⟩ := List.forall_mem_cons.1 h
    refine ⟨hs, ih fun s hs => ?_⟩
    obtain ⟨qualifier, hs⟩ := hrest s hs
    exact ⟨qualifier, hs.mono (List.subset_append_left _ _)⟩

/-- Tables that are in place by themselves are so one behind the other. -/
theorem eachPlaced_flatMap {α : Type} {l : List α} {f : α → List Symbol}
    (h : ∀ a ∈ l, EachPlaced root earlier (f a)) : EachPlaced root earlier (l.flatMap f) := by
  induction l generalizing earlier with
  | nil => trivial
  | cons a rest ih =>
    obtain ⟨ha, hrest⟩ := List.forall_mem_cons.1 h
    rw [List.flatMap_cons, eachPlaced_append]
    exact ⟨ha, ih fun a ha => (hrest a ha).mono (List.subset_append_left _ _)⟩

/-- **What a body declares belongs to what the body is that of**, or to something that is declared
in the body and stands in front. -/
theorem eachPlaced_declaredIn (body : List Stmt) :
    ∀ (site : Site) (earlier : List Symbol), Site.Anchored root earlier site →
      EachPlaced root earlier (declaredIn site body) := by
  induction body using blocks_induction with
  | nil => exact fun _ _ _ => trivial
  | cons st rest ihblocks ihrest =>
    intro site earlier hsite
    rw [declaredIn, declaredBy_eq, eachPlaced_append, eachPlaced_append]
    -- The blocks of a class or a function need its own symbol in front, the rest needs nothing.
    refine ⟨⟨eachPlaced_of_forall fun s hs => ?_, eachPlaced_flatMap fun block hblock => ?_⟩,
      (ihrest site earlier hsite).mono (List.subset_append_left _ _)⟩
    · obtain ⟨name, c, start, bases, decorators, hc, rfl⟩ := exists_of_mem_ownSymbols hs
      exact ⟨site.qualifier, hsite.placed hc⟩
    · exact ihblocks block (st.openBlocks_sublist.subset hblock) _ _ (hsite.body st)

/-! ### The table of a module -/

/-- What the symbol of a module itself is recorded as. -/
def moduleCategories : List Category := [.module, .package]

/-- The symbol of a module is a module or a package. -/
theorem Module.isOf_symbol (m : Module) : m.symbol.IsOf moduleCategories := by
  unfold Module.symbol
  split
  · exact ⟨.package, by decide, rfl⟩
  · exact ⟨.module, by decide, rfl⟩

/-- No body declares a module. -/
theorem not_isOf_of_mem_declaredIn {site : Site} {body : List Stmt} {s : Symbol}
    (h : s ∈ declaredIn site body) : ¬ s.IsOf moduleCategories := by
  obtain ⟨st, inner, -, -, hown⟩ := exists_occurs_of_mem_declaredIn body site h
  obtain ⟨name, c, start, bases, decorators, hc, rfl⟩ := exists_of_mem_ownSymbols hown
  have hnone : ∀ c ∈ inner.scope.categories, c ∉ moduleCategories := by
    cases inner.scope <;> decide
  exact fun hmodule => hnone c hc (isOf_symbol_iff.1 hmodule)

/-- What is declared in a body belongs to something in front of it, wherever it is picked. -/
theorem placed_of_declaredIn_eq {site : Site} {body : List Stmt} {before after : List Symbol}
    {s : Symbol} (hsite : Site.Anchored root earlier site)
    (h : declaredIn site body = before ++ s :: after) :
    ¬ s.IsOf moduleCategories ∧
      ∃ qualifier, Symbol.Placed root (earlier ++ before) s qualifier := by
  have hplaced := eachPlaced_declaredIn body site earlier hsite
  rw [h, eachPlaced_append] at hplaced
  exact ⟨not_isOf_of_mem_declaredIn (h ▸ List.mem_append_right _ List.mem_cons_self),
    hplaced.2.1⟩

/-- The site of a module's body. -/
def Module.site (m : Module) : Site := ⟨m.path.render, m.name, .moduleBody⟩

/-- A symbol of a module is the module's own, in front, or belongs to something in front of it. -/
theorem Module.placed_of_declarations_eq {m : Module} {before after : List Symbol} {s : Symbol}
    (h : m.declarations = before ++ s :: after) :
    (s.IsOf moduleCategories → before = []) ∧
      (¬ s.IsOf moduleCategories → ∃ qualifier, Symbol.Placed m.name before s qualifier) := by
  have hsite (earlier : List Symbol) : Site.Anchored m.name earlier m.site := rfl
  unfold Module.declarations at h
  split at h
  -- An empty file has no symbol of its own, and every other one starts with it.
  · obtain ⟨hother, hplaced⟩ := placed_of_declaredIn_eq (hsite []) h
    exact ⟨fun hmodule => absurd hmodule hother, fun _ => hplaced⟩
  · cases before with
    | nil =>
      obtain ⟨rfl, -⟩ := List.cons.inj h
      exact ⟨fun _ => rfl, fun hother => absurd m.isOf_symbol hother⟩
    | cons first before =>
      obtain ⟨rfl, hrest⟩ := List.cons.inj h
      obtain ⟨hother, hplaced⟩ := placed_of_declaredIn_eq (hsite [m.symbol]) hrest
      exact ⟨fun hmodule => absurd hmodule hother, fun _ => hplaced⟩

/-- What holds of the module's symbol and each other one, and of the other ones in their order,
holds of all symbols of the module in their order. -/
theorem Module.pairwise_declarations {m : Module} {R : Symbol → Symbol → Prop}
    (hself : ∀ t ∈ declaredIn m.site m.body, R m.symbol t)
    (hbody : (declaredIn m.site m.body).Pairwise R) : m.declarations.Pairwise R := by
  unfold Module.declarations
  split
  · exact hbody
  · exact .cons hself hbody

/-- **The table of a module's symbols is well formed.**  Let the classes, the functions and the
names that are assigned to start at positions that increase in source order.  Then the locations of
the symbols do not decrease, where lines count from one, as they do wherever a file was parsed
(`one_le_line_of_mem_startsIn`); no two symbols but the module's have one location; the module's
symbol is the first, if it is there; and every other symbol belongs to the module or to a symbol in
front of it: it has the qualified name of that one before its own name. -/
theorem declarations_wellFormed (m : Module)
    (hstarts : ((startsIn m.body).map Position.place).Pairwise (· < ·)) :
    ((∀ start ∈ startsIn m.body, 1 ≤ start.line) →
      (m.declarations.map fun s => s.location.place).Pairwise (· ≤ ·)) ∧
    (m.declarations.Pairwise fun s t =>
      ¬ s.IsOf moduleCategories → ¬ t.IsOf moduleCategories → s.location ≠ t.location) ∧
    ∀ before s after, m.declarations = before ++ s :: after →
      (s.IsOf moduleCategories → before = []) ∧
      (¬ s.IsOf moduleCategories → ∃ qualifier, Symbol.Placed m.name before s qualifier) := by
  have hbody := pairwise_declaredIn m.site hstarts
  refine ⟨fun hlines => ?_, ?_, fun before s after => Module.placed_of_declarations_eq⟩
  · refine List.pairwise_map.2 (Module.pairwise_declarations (fun t ht => ?_) (hbody.imp le_of_lt))
    obtain ⟨start, hstart, hlocation⟩ := exists_start_of_mem_declaredIn ht
    have hline := hlines start hstart
    rw [← hlocation]
    unfold Location.place Position.inFile Module.symbol
    rw [Prod.Lex.toLex_le_toLex]
    dsimp only
    omega
  · refine Module.pairwise_declarations (fun _ _ hother => absurd m.isOf_symbol hother)
      (hbody.imp fun hlt _ _ hsame => ?_)
    rw [hsame] at hlt
    exact lt_irrefl _ hlt

/-- A class with a field and, inside of a conditional, a method. -/
def classWithMembers : Text.Bytes :=
  Text.bytesOf "class A:\n    x = 1\n    if x:\n        def f(self): pass\n".toList

/-- The hypothesis of `declarations_wellFormed` is satisfiable: of the class with its field and its
method, which stand in order, the method belongs to the class. -/
theorem declarations_wellFormed_classWithMembers :
    ∃ body, statements? classWithMembers = some body ∧
      ((startsIn body).map Position.place).Pairwise (· < ·) ∧
      ((Module.declarations ⟨⟨.relative, ["m.py"]⟩, "m", body, false⟩).map
        fun s => s.location.place).Pairwise (· ≤ ·) ∧
      ∃ qualifier, Symbol.Placed "m" [
          ⟨"m", "m", "module", ⟨"m.py", 1, 0⟩, [], []⟩,
          ⟨"A", "m.A", "class", ⟨"m.py", 1, 0⟩, [], []⟩,
          ⟨"x", "m.A.x", "field", ⟨"m.py", 2, 4⟩, [], []⟩]
        ⟨"f", "m.A.f", "method", ⟨"m.py", 4, 8⟩, [], []⟩ qualifier := by
  have hparsed : (statements? classWithMembers).map (fun body =>
      (startsIn body, Module.declarations ⟨⟨.relative, ["m.py"]⟩, "m", body, false⟩)) =
        some ([⟨1, 0⟩, ⟨2, 4⟩, ⟨4, 8⟩], [
          ⟨"m", "m", "module", ⟨"m.py", 1, 0⟩, [], []⟩,
          ⟨"A", "m.A", "class", ⟨"m.py", 1, 0⟩, [], []⟩,
          ⟨"x", "m.A.x", "field", ⟨"m.py", 2, 4⟩, [], []⟩,
          ⟨"f", "m.A.f", "method", ⟨"m.py", 4, 8⟩, [], []⟩]) := by
    decide +kernel
  obtain ⟨body, hbody, htable⟩ := Option.map_eq_some_iff.1 hparsed
  obtain ⟨hstarts, hdeclarations⟩ := Prod.mk.inj htable
  have hincreasing : ((startsIn body).map Position.place).Pairwise (· < ·) := by
    rw [hstarts]
    decide
  obtain ⟨hordered, -, hplaced⟩ :=
    declarations_wellFormed ⟨⟨.relative, ["m.py"]⟩, "m", body, false⟩ hincreasing
  refine ⟨body, hbody, hincreasing, hordered (one_le_line_of_mem_startsIn hbody), ?_⟩
  have hother : ∀ c ∈ moduleCategories, "method" ≠ c.text := by decide
  refine (hplaced [_, _, _] _ [] hdeclarations).2 ?_
  rintro ⟨c, hc, htext⟩
  exact hother c hc htext

end Python
end DeclSearch
