/-
# What is left out of the references

The references to a symbol leave out its own location.  For a class or a function, that is where
its statement starts; for an assigned name, it is where the name itself starts.  Where no string
inside another one goes on over the end of a line, no other node mentions the name there, so all
uses are reported, and nothing but the declaration is left out (`uses_are_reported`).

Two kinds of uses are left out.  A module has no node that declares it: its symbol is put at the
first character of the file, and a use of the module's name that starts there is not reported
(`module_use_is_left_out`).  And the columns in a string inside another one, behind the end of a
line, are counted from where that string starts, so a use there may have the position of the
declaration (`nested_use_is_left_out`).
-/

import DeclSearch.Proofs.NodeOrder
import DeclSearch.Proofs.SymbolTable
import DeclSearch.Proofs.Uses

namespace DeclSearch

/-- What names are recorded as that are assigned to. -/
def Python.assignedCategories : List Python.Category := [.field, .alias, .record]

/-- Whether some nodes are those that declare a symbol at a position: the start and the name of a
class or a function, or a name that is assigned to. -/
def Symbol.MadeBy (s : Symbol) (start : Python.Position) (own : List Python.Node) : Prop :=
  s.IsOf Python.definitionCategories ∧ own = [.opening start, .defined s.name] ∨
    s.IsOf Python.assignedCategories ∧ own = [.name s.name start]

/-- Whether a symbol is declared in a file by some of these nodes, which stand together, at its
location. -/
def Symbol.MadeIn (s : Symbol) (file : String) (nodes : List Python.Node) : Prop :=
  ∃ start own, s.location = start.inFile file ∧ s.MadeBy start own ∧ own <:+: nodes

/-- A symbol that is declared by some nodes is declared by more nodes around them. -/
theorem Symbol.MadeIn.mono {s : Symbol} {file : String} {nodes more : List Python.Node}
    (h : s.MadeIn file nodes) (hmore : nodes <:+: more) : s.MadeIn file more := by
  obtain ⟨start, own, hstart, hown, hnodes⟩ := h
  exact ⟨start, own, hstart, hown, hnodes.trans hmore⟩

namespace Python

/-- What an assigned name is recorded as is a field, an alias or a record. -/
theorem assignmentCategory?_mem {scope : Scope} {typeHint factory : String} {c : Category}
    (h : assignmentCategory? scope typeHint factory = some c) : c ∈ assignedCategories := by
  unfold assignmentCategory? at h
  repeat' split at h
  all_goals cases h
  all_goals decide

/-! ### The nodes that declare a symbol -/

/-- What comes of one item of a list stands together in what comes of all. -/
theorem isInfix_flatMap {α β : Type} {a : α} {l : List α} (h : a ∈ l) (f : α → List β) :
    f a <:+: l.flatMap f := by
  rw [List.flatMap_def]
  exact List.infix_of_mem_flatten (List.mem_map_of_mem h)

/-- The nodes of the body of a clause stand together among those of the clauses. -/
theorem Clause.nodesOf_isInfix {clause : Clause} {clauses : List Clause} (h : clause ∈ clauses) :
    Stmt.nodesOf clause.body <:+: Clause.nodesOf clauses := by
  have hclause : Stmt.nodesOf clause.body <:+: clause.nodes := by
    obtain ⟨parts, body⟩ := clause
    exact (List.suffix_append _ _).isInfix
  rw [Clause.nodesOf_eq]
  exact hclause.trans (isInfix_flatMap h Clause.nodes)

/-- The nodes of a block stand together among those of its statement. -/
theorem Stmt.nodesOf_isInfix {st : Stmt} {block : List Stmt} (h : block ∈ st.blocks) :
    Stmt.nodesOf block <:+: st.nodes := by
  cases st with
  | classDef | functionDef | withItems =>
    obtain rfl := List.mem_singleton.1 h
    exact (List.suffix_append _ _).isInfix
  | ifElse | loop =>
    simp only [blocks, List.mem_cons, List.not_mem_nil, or_false] at h
    rcases h with rfl | rfl
    · exact List.infix_append _ _ _
    · exact (List.suffix_append _ _).isInfix
  | tryExcept group body handlers orElse final =>
    simp only [blocks, List.mem_cons, List.mem_append, List.mem_map, List.not_mem_nil,
      or_false] at h
    rw [Stmt.nodes]
    rcases h with rfl | ⟨clause, hclause, rfl⟩ | rfl | rfl
    · rw [List.append_assoc, List.append_assoc]
      exact (List.prefix_append _ _).isInfix
    · rw [List.append_assoc]
      exact (Clause.nodesOf_isInfix hclause).trans (List.infix_append _ _ _)
    · exact List.infix_append _ _ _
    · exact (List.suffix_append _ _).isInfix
  | matchCases subject cases =>
    obtain ⟨clause, hclause, rfl⟩ := List.mem_map.1 h
    exact (Clause.nodesOf_isInfix hclause).trans (List.suffix_append _ _).isInfix
  | annotated | assign | importNames | importFrom | plain => exact absurd h List.not_mem_nil

/-- The nodes of a statement stand together among those of the bodies that it stands in. -/
theorem Occurs.nodes_isInfix {enters : Stmt → Bool} {st : Stmt} {body : List Stmt}
    (h : Occurs enters st body) : st.nodes <:+: Stmt.nodesOf body := by
  induction h with
  | here h =>
    rw [Stmt.nodesOf_eq]
    exact isInfix_flatMap h Stmt.nodes
  | inside houter _ hblock _ ih =>
    rw [Stmt.nodesOf_eq]
    exact (ih.trans (Stmt.nodesOf_isInfix hblock)).trans (isInfix_flatMap houter Stmt.nodes)

/-- A symbol that an assignment declares is declared by one of the targets, at the start of the
name. -/
theorem madeIn_of_mem_assigned {site : Site} {targets : List Expr} {typeHint : String}
    {value : Option Expr} {s : Symbol} (h : s ∈ assigned site targets typeHint value) :
    s.MadeIn site.file (Expr.nodesOf targets) := by
  unfold assigned at h
  split at h
  · exact absurd h List.not_mem_nil
  · next c hc =>
    obtain ⟨target, htarget, hs⟩ := List.mem_filterMap.1 h
    cases target with
    | name id start =>
      cases hs
      rw [Expr.nodesOf_eq]
      exact ⟨start, _, rfl, .inr ⟨isOf_symbol_iff.2 (assignmentCategory?_mem hc), rfl⟩,
        isInfix_flatMap htarget Expr.nodes⟩
    | _ => exact nomatch hs

/-- A symbol that a statement declares by itself is declared by nodes of the statement. -/
theorem madeIn_of_mem_ownSymbols {site : Site} {st : Stmt} {s : Symbol}
    (h : s ∈ ownSymbols site st) : s.MadeIn site.file st.nodes := by
  cases st with
  | classDef start name decorators arguments body =>
    obtain rfl := List.mem_singleton.1 h
    refine ⟨start, _, rfl, .inl ⟨isOf_symbol_iff.2 (by decide), rfl⟩, ?_⟩
    rw [Stmt.nodes, List.append_assoc]
    exact List.infix_append _ _ _
  | functionDef start name decorators parts body =>
    obtain rfl := List.mem_singleton.1 h
    refine ⟨start, _, rfl,
      .inl ⟨isOf_symbol_iff.2 (List.mem_cons_of_mem _ (functionCategory_mem _ _)), rfl⟩, ?_⟩
    rw [Stmt.nodes, List.append_assoc]
    exact List.infix_append _ _ _
  | annotated target typeHint value =>
    refine (madeIn_of_mem_assigned h).mono ?_
    rw [Expr.nodesOf_eq, List.flatMap_singleton, Stmt.nodes, List.append_assoc]
    exact (List.prefix_append _ _).isInfix
  | assign targets value =>
    exact (madeIn_of_mem_assigned h).mono (List.prefix_append _ _).isInfix
  | _ => exact absurd h List.not_mem_nil

/-- **A symbol is declared by nodes of its body**, which stand at its location. -/
theorem madeIn_of_mem_declaredIn {body : List Stmt} {s : Symbol} :
    ∀ site : Site, s ∈ declaredIn site body → s.MadeIn site.file (Stmt.nodesOf body) := by
  intro site h
  obtain ⟨st, inner, hst, hfile, hown⟩ := exists_occurs_of_mem_declaredIn body site h
  rw [← hfile]
  exact (madeIn_of_mem_ownSymbols hown).mono hst.nodes_isInfix

/-! ### What is reported -/

open Workspace (Path Tree Quest)

variable {excludedDirs : List String} {tree : Tree} {unit : Path} {p : Project} {m : Module}
  {s : Symbol} {n : Node}

/-- Whether every mention of a symbol's name by a node of a module is a reference to the symbol. -/
def Project.Reports (p : Project) (s : Symbol) (m : Module) (n : Node) : Prop :=
  ∀ mention ∈ n.mentions, mention.word = s.name →
    ⟨m.path.render, mention.line, mention.column⟩ ∈ p.references s

/-- A node is reported if it does not mention the symbol's name at the symbol's location. -/
theorem Project.reports_iff (hm : m ∈ p.modules) (hn : n ∈ Stmt.nodesOf m.body) :
    p.Reports s m n ↔ ∀ mention ∈ n.mentions, mention.word = s.name →
      ⟨m.path.render, mention.line, mention.column⟩ ≠ s.location := by
  refine forall₂_congr fun mention hmention => forall_congr' fun hword => ⟨fun h => ?_, fun h => ?_⟩
  · obtain ⟨other, -, href⟩ := List.mem_flatMap.1 h
    exact (Module.mem_references_iff.1 href).2
  · have hmem : mention ∈ mentionedInAll m.body :=
      (perm_mentionedInAll m.body).mem_iff.2 (List.mem_flatMap.2 ⟨n, hn, hmention⟩)
    have hat : MentionedAt s.name m.body (mention.line, mention.column) :=
      mem_mentionedInAll_iff_mentionedAt.1 (hword ▸ hmem)
    exact List.mem_flatMap.2 ⟨m, hm, Module.mem_references_iff.2 ⟨⟨_, hat, rfl⟩, h⟩⟩

/-- In the file of the symbol, a node is reported if it does not mention the symbol's name at the
position of the symbol. -/
theorem Project.reports_iff_not_mentionsAt (hm : m ∈ p.modules) (hn : n ∈ Stmt.nodesOf m.body)
    {start : Position} (hs : s.location = start.inFile m.path.render) :
    p.Reports s m n ↔ ¬ n.MentionsAt s.name start := by
  rw [reports_iff hm hn]
  constructor
  · exact fun h hat => h _ hat rfl hs.symm
  · rintro h ⟨word, line, column⟩ hmention rfl hlocation
    rw [hs] at hlocation
    cases hlocation
    exact h hmention

/-- No two modules of a project have one path, since what a module holds is read from there. -/
theorem Project.module_eq_of_path (hp : compile excludedDirs tree unit = .ok p) {other : Module}
    (hm : m ∈ p.modules) (hother : other ∈ p.modules) (hpath : other.path = m.path) :
    other = m := by
  obtain ⟨-, content, hread, hbody, hname, hempty⟩ := (mem_modules_iff hp).1 hm
  obtain ⟨-, content', hread', hbody', hname', hempty'⟩ := (mem_modules_iff hp).1 hother
  obtain ⟨path, name, body, isEmpty⟩ := m
  obtain ⟨path', name', body', isEmpty'⟩ := other
  dsimp only at hpath hread hread' hbody hbody' hname hname' hempty hempty'
  subst hpath
  cases hread.symm.trans hread'
  cases hbody.symm.trans hbody'
  cases hname.symm.trans hname'
  cases hempty.trans hempty'.symm
  rfl

/-- No two modules of a project have files that are written alike. -/
theorem Project.module_eq_of_render (hunit : unit.Proper)
    (hp : compile excludedDirs tree unit = .ok p) {other : Module} (hm : m ∈ p.modules)
    (hother : other ∈ p.modules) (hrender : other.path.render = m.path.render) : other = m := by
  have hproper {m : Module} (hm : m ∈ p.modules) : m.path.Proper :=
    Tree.proper_of_mem_walk hunit.parent _ ((mem_modules_iff hp).1 hm).1
  refine module_eq_of_path hp hm hother ?_
  rw [← Path.ofString_render (hproper hm), ← Path.ofString_render (hproper hother), hrender]

/-- Whether no string inside another one goes on over the end of a line, in the file of a module. -/
def Module.KeepsLines (tree : Tree) (m : Module) : Prop :=
  ∀ content, tree.read m.path = .ok content → stringsKeepLines content

/-- The nodes of a module of a project whose strings keep to their lines are words one behind the
other. -/
theorem Project.exists_written_of_keepsLines (hp : compile excludedDirs tree unit = .ok p)
    (hm : m ∈ p.modules) (hlines : m.KeepsLines tree) :
    ∃ words, Written words ∧ words.map Prod.fst = Stmt.nodesOf m.body := by
  obtain ⟨-, content, hread, hbody, -⟩ := (mem_modules_iff hp).1 hm
  exact exists_written hbody (hlines content hread)

/-- **Which uses of a symbol are reported.**  Where a unit is compiled, every node of another module
is reported for a symbol if it mentions the symbol's name; a node of the symbol's own module is
reported exactly when it does not mention the name at the symbol's position.

So where no string inside another one goes on over the end of a line, all nodes of the module are
reported for a class, a function, a method or a property, and all but the name that is assigned to
for a field, an alias or a record.  A module or a package, which no node declares, has the position
of the first character of the file. -/
theorem uses_are_reported (hunit : unit.Proper)
    (hp : Project.compile excludedDirs tree unit = .ok p) (hm : m ∈ p.modules)
    (hs : s ∈ m.declarations) :
    (∀ other ∈ p.modules, other ≠ m → ∀ n ∈ Stmt.nodesOf other.body, p.Reports s other n) ∧
    ∃ start, s.location = start.inFile m.path.render ∧
      (∀ n ∈ Stmt.nodesOf m.body, p.Reports s m n ↔ ¬ n.MentionsAt s.name start) ∧
      (s.IsOf definitionCategories ∧
          (m.KeepsLines tree → ∀ n ∈ Stmt.nodesOf m.body, p.Reports s m n) ∨
        s.IsOf assignedCategories ∧ (∃ front back,
          Stmt.nodesOf m.body = front ++ .name s.name start :: back ∧
            (m.KeepsLines tree → ∀ n ∈ front ++ back, p.Reports s m n)) ∨
        s.IsOf moduleCategories ∧ start = ⟨1, 0⟩) := by
  constructor
  · intro other hother hne n hn
    refine (Project.reports_iff hother hn).2 fun mention _ _ hlocation => hne ?_
    refine Project.module_eq_of_render hunit hp hm hother ?_
    rw [← Module.file_of_mem_declarations hs, ← hlocation]
  have hexact {start : Position} (hstart : s.location = start.inFile m.path.render) :
      ∀ n ∈ Stmt.nodesOf m.body, p.Reports s m n ↔ ¬ n.MentionsAt s.name start :=
    fun n hn => Project.reports_iff_not_mentionsAt hm hn hstart
  rcases Module.eq_symbol_or_mem_declaredIn hs with rfl | hs
  · exact ⟨⟨1, 0⟩, rfl, hexact rfl, .inr (.inr ⟨m.isOf_symbol, rfl⟩)⟩
  obtain ⟨start, own, hstart, hown, front, back, hpart⟩ := madeIn_of_mem_declaredIn _ hs
  refine ⟨start, hstart, hexact hstart, ?_⟩
  rcases hown with ⟨hcategory, rfl⟩ | ⟨hcategory, rfl⟩
  · refine .inl ⟨hcategory, fun hlines n hn => (hexact hstart n hn).2 ?_⟩
    obtain ⟨words, hwords, hnodes⟩ := Project.exists_written_of_keepsLines hp hm hlines
    have hsplit : words.map Prod.fst = front ++ .opening start :: .defined s.name :: back := by
      rw [hnodes, ← hpart]
      simp
    exact hwords.not_mentionsAt_of_defined hsplit n (hnodes ▸ hn)
  · have hsplit : Stmt.nodesOf m.body = front ++ .name s.name start :: back := by
      rw [← hpart]
      simp
    refine .inr (.inl ⟨hcategory, front, back, hsplit, fun hlines n hn => ?_⟩)
    obtain ⟨words, hwords, hnodes⟩ := Project.exists_written_of_keepsLines hp hm hlines
    have hmem : n ∈ Stmt.nodesOf m.body := by
      rw [hsplit]
      exact (List.mem_append.1 hn).elim (List.mem_append_left _)
        fun hn => List.mem_append_right _ (List.mem_cons_of_mem _ hn)
    exact (hexact hstart n hmem).2 (hwords.not_mentionsAt_of_name (hnodes.trans hsplit) n hn)

/-- A module that declares a class and uses it. -/
def classAndUse : Text.Bytes := Text.bytesOf "class A: pass\nA()\n".toList

/-- The hypotheses of `uses_are_reported` are satisfiable: the use of the class is reported. -/
theorem uses_are_reported_classAndUse :
    loneUnit.Proper ∧ ∃ p body,
      Project.compile (profile []).excludedDirs (loneModule classAndUse) loneUnit = .ok p ∧
      ⟨loneFile, "m", body, false⟩ ∈ p.modules ∧ .name "A" ⟨2, 0⟩ ∈ Stmt.nodesOf body ∧
      p.Reports ⟨"A", "m.A", "class", ⟨"m.py", 1, 0⟩, [], []⟩ ⟨loneFile, "m", body, false⟩
        (.name "A" ⟨2, 0⟩) := by
  have hunit : loneUnit.Proper := by decide +kernel
  have hparsed : (statements? classAndUse).map (fun body =>
      (Module.declarations ⟨loneFile, "m", body, false⟩, Stmt.nodesOf body)) =
        some ([⟨"m", "m", "module", ⟨"m.py", 1, 0⟩, [], []⟩,
          ⟨"A", "m.A", "class", ⟨"m.py", 1, 0⟩, [], []⟩],
          [.opening ⟨1, 0⟩, .defined "A", .name "A" ⟨2, 0⟩]) := by
    decide +kernel
  obtain ⟨body, hbody, hboth⟩ := Option.map_eq_some_iff.1 hparsed
  obtain ⟨hdeclarations, hnodes⟩ := Prod.mk.inj hboth
  obtain ⟨p, hp, -⟩ := compile_loneModule hbody
  have hm := mem_modules_loneModule hbody (by decide +kernel) hp
  have hs : (⟨"A", "m.A", "class", ⟨"m.py", 1, 0⟩, [], []⟩ : Symbol) ∈
      Module.declarations ⟨loneFile, "m", body, false⟩ := by
    rw [hdeclarations]
    decide
  have hn : .name "A" ⟨2, 0⟩ ∈ Stmt.nodesOf body := by
    rw [hnodes]
    decide
  have hlines : Module.KeepsLines (loneModule classAndUse) ⟨loneFile, "m", body, false⟩ := by
    intro content hread
    obtain rfl : classAndUse = content := Except.ok.inj hread
    decide +kernel
  refine ⟨hunit, p, body, hp, hm, hn, ?_⟩
  -- It is no assignment and no module.
  have hother : ∀ c ∈ assignedCategories ++ moduleCategories, "class" ≠ c.text := by decide
  obtain ⟨-, start, -, -, h | ⟨⟨c, hc, htext⟩, -⟩ | ⟨⟨c, hc, htext⟩, -⟩⟩ :=
    uses_are_reported hunit hp hm hs
  · exact h.2 hlines _ hn
  · exact absurd htext (hother c (List.mem_append_left _ hc))
  · exact absurd htext (hother c (List.mem_append_right _ hc))

/-- A module that uses its own name in front of everything else. -/
def usesOwnName : Text.Bytes := Text.bytesOf "m = 1\n".toList

/-- **A use of a module's name is left out** at the first character of its file, though nothing is
declared there. -/
theorem module_use_is_left_out :
    ∃ p body, Project.compile (profile []).excludedDirs (loneModule usesOwnName) loneUnit = .ok p ∧
      ⟨loneFile, "m", body, false⟩ ∈ p.modules ∧ .name "m" ⟨1, 0⟩ ∈ Stmt.nodesOf body ∧
      p.symbols = [⟨"m", "m", "module", ⟨"m.py", 1, 0⟩, [], []⟩] ∧
      ⟨"m.py", 1, 0⟩ ∉ p.references ⟨"m", "m", "module", ⟨"m.py", 1, 0⟩, [], []⟩ := by
  have hparsed : (statements? usesOwnName).map (fun body =>
      (Module.declarations ⟨loneFile, "m", body, false⟩, Stmt.nodesOf body)) =
        some ([⟨"m", "m", "module", ⟨"m.py", 1, 0⟩, [], []⟩], [.name "m" ⟨1, 0⟩]) := by
    decide +kernel
  obtain ⟨body, hbody, hboth⟩ := Option.map_eq_some_iff.1 hparsed
  obtain ⟨hdeclarations, hnodes⟩ := Prod.mk.inj hboth
  obtain ⟨p, hp, hsymbols⟩ := compile_loneModule hbody
  refine ⟨p, body, hp, mem_modules_loneModule hbody (by decide +kernel) hp, by rw [hnodes]; decide,
    hsymbols.trans hdeclarations, fun h => ?_⟩
  obtain ⟨other, -, href⟩ := List.mem_flatMap.1 h
  exact (Module.mem_references_iff.1 href).2 rfl

/-- A class in whose body it is used in a string inside another one, which goes on over the end of
the line. -/
def usedInNestedString : Text.Bytes :=
  Text.bytesOf "if 1:\n      class A: x=f'''\x7bf\"\"\"\x7bA:\n\x7d\"\"\"\x7d'''\n".toList

/-- **Where a string inside another one goes on over the end of a line**, a use of a class may have
the position of the class, and is left out. -/
theorem nested_use_is_left_out :
    stringsKeepLines usedInNestedString = false ∧
    ∃ p body, Project.compile (profile []).excludedDirs (loneModule usedInNestedString) loneUnit =
        .ok p ∧ ⟨loneFile, "m", body, false⟩ ∈ p.modules ∧
      .name "A" ⟨2, 6⟩ ∈ Stmt.nodesOf body ∧
      ⟨"A", "m.A", "class", ⟨"m.py", 2, 6⟩, [], []⟩ ∈ p.symbols ∧
      ⟨"m.py", 2, 6⟩ ∉ p.references ⟨"A", "m.A", "class", ⟨"m.py", 2, 6⟩, [], []⟩ := by
  have hparsed : (statements? usedInNestedString).map (fun body =>
      (Module.declarations ⟨loneFile, "m", body, false⟩, Stmt.nodesOf body)) =
        some ([⟨"m", "m", "module", ⟨"m.py", 1, 0⟩, [], []⟩,
          ⟨"A", "m.A", "class", ⟨"m.py", 2, 6⟩, [], []⟩,
          ⟨"x", "m.A.x", "field", ⟨"m.py", 2, 15⟩, [], []⟩],
          [.opening ⟨2, 6⟩, .defined "A", .name "x" ⟨2, 15⟩, .name "A" ⟨2, 6⟩]) := by
    decide +kernel
  obtain ⟨body, hbody, hboth⟩ := Option.map_eq_some_iff.1 hparsed
  obtain ⟨hdeclarations, hnodes⟩ := Prod.mk.inj hboth
  obtain ⟨p, hp, hsymbols⟩ := compile_loneModule hbody
  refine ⟨by decide +kernel, p, body, hp, mem_modules_loneModule hbody (by decide +kernel) hp,
    by rw [hnodes]; decide, by rw [hsymbols.trans hdeclarations]; decide, fun h => ?_⟩
  obtain ⟨other, -, href⟩ := List.mem_flatMap.1 h
  exact (Module.mem_references_iff.1 href).2 rfl

end Python
end DeclSearch
