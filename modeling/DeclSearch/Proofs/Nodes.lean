/-
# The nodes of a syntax tree

What a syntax tree keeps of single words of its text, in the order of the text: names and
attributes, imports, and of a class or a function its keyword and its name (`Stmt.nodes`).  The
positions in a tree and the mentions in it are those of its nodes (`Stmt.mem_positionsOf_iff`,
`perm_mentionedInAll`), and so every mention stands on the line of a position
(`map_line_mentionedInAll`).

A node stands for a word that it agrees with (`Node.Of`).
-/

import DeclSearch.Proofs.Leaves
import DeclSearch.Proofs.Positions
import DeclSearch.Python.Mentions
import Mathlib.Data.List.Forall2

namespace DeclSearch
namespace Python

/-- What a syntax tree keeps of a word. -/
inductive Node where
  | name (id : String) (start : Position)
  | attribute (id : String) (stop : Position)
  | imported (i : Import)
  | opening (start : Position)
  | defined (id : String)
  deriving Repr, DecidableEq

/-- Whether a node stands for a word. -/
def Node.Of (t : Token) : Node → Prop
  | .name id start => (∃ plain, t.word = .name id plain) ∧ t.start = start
  | .attribute id stop => (∃ plain, t.word = .name id plain) ∧ t.stop = stop
  | .imported i => t.start = i.start
  | .opening start => t.start = start
  | .defined id => ∃ plain, t.word = .name id plain

/-- The position that a node keeps. -/
def Node.position? : Node → Option Position
  | .name _ start => some start
  | .attribute _ stop => some stop
  | .imported i => some i.start
  | .opening start => some start
  | .defined _ => none

/-- A node keeps one of the ends of its word. -/
theorem Node.position_eq {n : Node} {t : Token} {p : Position} (h : n.Of t)
    (hp : n.position? = some p) : p = t.start ∨ p = t.stop := by
  match n, h, hp with
  | .name .., h, hp => exact .inl (h.2.trans (Option.some.inj hp)).symm
  | .attribute .., h, hp => exact .inr (h.2.trans (Option.some.inj hp)).symm
  | .imported _, h, hp => exact .inl (Eq.trans h (Option.some.inj hp)).symm
  | .opening _, h, hp => exact .inl (Eq.trans h (Option.some.inj hp)).symm

/-- What a node mentions. -/
def Node.mentions : Node → List Mention
  | .name id start => [⟨id, start.line, start.column⟩]
  | .attribute id stop => [⟨id, stop.line, (stop.column : Int) - id.length⟩]
  | .imported i => i.mentions
  | .opening _ | .defined _ => []

mutual

/-- The nodes of an expression. -/
def Expr.nodes : Expr → List Node
  | .name id start => [.name id start]
  | .attribute value attr stop => value.nodes ++ [.attribute attr stop]
  | .call function arguments => function.nodes ++ Expr.nodesOf arguments
  | .subscript value index => value.nodes ++ Expr.nodesOf index
  | .starred value => value.nodes
  | .keyword _ value => value.nodes
  | .tuple items => Expr.nodesOf items
  | .list items => Expr.nodesOf items
  | .other parts => Expr.nodesOf parts

/-- The nodes of some expressions. -/
def Expr.nodesOf : List Expr → List Node
  | [] => []
  | e :: rest => e.nodes ++ Expr.nodesOf rest

end

mutual

/-- The nodes of a statement. -/
def Stmt.nodes : Stmt → List Node
  | .classDef start name decorators arguments body =>
    Expr.nodesOf decorators ++ [.opening start, .defined name] ++ Expr.nodesOf arguments ++
      Stmt.nodesOf body
  | .functionDef start name decorators parts body =>
    Expr.nodesOf decorators ++ [.opening start, .defined name] ++ Expr.nodesOf parts ++
      Stmt.nodesOf body
  | .annotated target typeHint value => target.nodes ++ typeHint.nodes ++ Expr.nodesOf value.toList
  | .assign targets value => Expr.nodesOf targets ++ value.nodes
  | .ifElse test body orElse => test.nodes ++ Stmt.nodesOf body ++ Stmt.nodesOf orElse
  | .tryExcept _ body handlers orElse final =>
    Stmt.nodesOf body ++ Clause.nodesOf handlers ++ Stmt.nodesOf orElse ++ Stmt.nodesOf final
  | .withItems parts body => Expr.nodesOf parts ++ Stmt.nodesOf body
  | .loop parts body orElse => Expr.nodesOf parts ++ Stmt.nodesOf body ++ Stmt.nodesOf orElse
  | .matchCases subject cases => subject.nodes ++ Clause.nodesOf cases
  | .importNames names => names.map .imported
  | .importFrom origin names => .imported origin :: names.map .imported
  | .plain parts => Expr.nodesOf parts

/-- The nodes of a run of statements. -/
def Stmt.nodesOf : List Stmt → List Node
  | [] => []
  | s :: rest => s.nodes ++ Stmt.nodesOf rest

/-- The nodes of clauses. -/
def Clause.nodesOf : List Clause → List Node
  | [] => []
  | .mk parts body :: rest => Expr.nodesOf parts ++ Stmt.nodesOf body ++ Clause.nodesOf rest

end

/-- The nodes of a clause. -/
def Clause.nodes : Clause → List Node
  | .mk parts body => Expr.nodesOf parts ++ Stmt.nodesOf body

/-- The nodes of expressions are those of each, one after another. -/
@[simp]
theorem Expr.nodesOf_eq (l : List Expr) : Expr.nodesOf l = l.flatMap Expr.nodes := by
  induction l with
  | nil => rfl
  | cons e rest ih => rw [nodesOf, ih, List.flatMap_cons]

/-- The nodes of statements are those of each, one after another. -/
@[simp]
theorem Stmt.nodesOf_eq (l : List Stmt) : Stmt.nodesOf l = l.flatMap Stmt.nodes := by
  induction l with
  | nil => rfl
  | cons s rest ih => rw [nodesOf, ih, List.flatMap_cons]

/-- The nodes of clauses are those of each, one after another. -/
@[simp]
theorem Clause.nodesOf_eq (l : List Clause) : Clause.nodesOf l = l.flatMap Clause.nodes := by
  induction l with
  | nil => rfl
  | cons c rest ih =>
    obtain ⟨parts, body⟩ := c
    rw [nodesOf, ih, List.flatMap_cons, nodes]

/-- The positions of some nodes. -/
def positionsOfNodes (nodes : List Node) : List Position := nodes.filterMap Node.position?

/-- The positions of nodes in two lists are those in the one and then those in the other. -/
@[simp]
theorem positionsOfNodes_append (l l' : List Node) :
    positionsOfNodes (l ++ l') = positionsOfNodes l ++ positionsOfNodes l' :=
  List.filterMap_append

/-- The mentions of some nodes. -/
def mentionsOfNodes (nodes : List Node) : List Mention := nodes.flatMap Node.mentions

/-- The mentions of nodes in two lists are those in the one and then those in the other. -/
@[simp]
theorem mentionsOfNodes_append (l l' : List Node) :
    mentionsOfNodes (l ++ l') = mentionsOfNodes l ++ mentionsOfNodes l' :=
  List.flatMap_append

mutual

/-- The positions in an expression are those of its nodes. -/
theorem Expr.mem_positions_iff {p : Position} :
    (e : Expr) → (p ∈ e.positions ↔ p ∈ positionsOfNodes e.nodes)
  | .name id start => by simp [positions, nodes, positionsOfNodes, Node.position?]
  | .attribute value attr stop => by
    rw [positions, nodes, positionsOfNodes_append, List.mem_append, List.mem_cons,
      value.mem_positions_iff, or_comm]
    exact or_congr_right (by simp [positionsOfNodes, Node.position?])
  | .call function arguments => by
    rw [positions, nodes, positionsOfNodes_append, List.mem_append, List.mem_append,
      function.mem_positions_iff, mem_positionsOf_iff arguments]
  | .subscript value index => by
    rw [positions, nodes, positionsOfNodes_append, List.mem_append, List.mem_append,
      value.mem_positions_iff, mem_positionsOf_iff index]
  | .starred value | .keyword _ value => value.mem_positions_iff
  | .tuple items | .list items | .other items => mem_positionsOf_iff items

/-- The positions in some expressions are those of their nodes. -/
theorem Expr.mem_positionsOf_iff {p : Position} :
    (l : List Expr) → (p ∈ Expr.positionsOf l ↔ p ∈ positionsOfNodes (Expr.nodesOf l))
  | [] => .rfl
  | e :: rest => by
    rw [positionsOf, nodesOf, positionsOfNodes_append, List.mem_append, List.mem_append,
      e.mem_positions_iff, mem_positionsOf_iff rest]

end

mutual

/-- The positions in a statement are those of its nodes. -/
theorem Stmt.mem_positions_iff {p : Position} :
    (s : Stmt) → (p ∈ s.positions ↔ p ∈ positionsOfNodes s.nodes)
  | .classDef start name decorators parts body
  | .functionDef start name decorators parts body => by
    have hopening : p ∈ positionsOfNodes [.opening start, .defined name] ↔ p = start := by
      simp [positionsOfNodes, Node.position?]
    simp only [Stmt.positions, Stmt.nodes, positionsOfNodes_append, List.mem_append, List.mem_cons,
      Expr.mem_positionsOf_iff, Stmt.mem_positionsOf_iff body, hopening]
    tauto
  | .annotated target typeHint value => by
    simp only [Stmt.positions, Stmt.nodes, positionsOfNodes_append, List.mem_append,
      Expr.mem_positionsOf_iff, Expr.mem_positions_iff]
  | .assign targets value => by
    simp only [Stmt.positions, Stmt.nodes, positionsOfNodes_append, List.mem_append,
      Expr.mem_positionsOf_iff, Expr.mem_positions_iff]
  | .ifElse test body orElse => by
    simp only [Stmt.positions, Stmt.nodes, positionsOfNodes_append, List.mem_append,
      Expr.mem_positions_iff, Stmt.mem_positionsOf_iff body, Stmt.mem_positionsOf_iff orElse]
  | .tryExcept _ body handlers orElse final => by
    simp only [Stmt.positions, Stmt.nodes, positionsOfNodes_append, List.mem_append,
      Stmt.mem_positionsOf_iff body, Stmt.mem_positionsOf_iff orElse,
      Stmt.mem_positionsOf_iff final, Clause.mem_positionsOf_iff handlers]
  | .withItems parts body => by
    simp only [Stmt.positions, Stmt.nodes, positionsOfNodes_append, List.mem_append,
      Expr.mem_positionsOf_iff, Stmt.mem_positionsOf_iff body]
  | .loop parts body orElse => by
    simp only [Stmt.positions, Stmt.nodes, positionsOfNodes_append, List.mem_append,
      Expr.mem_positionsOf_iff, Stmt.mem_positionsOf_iff body, Stmt.mem_positionsOf_iff orElse]
  | .matchCases subject cases => by
    simp only [Stmt.positions, Stmt.nodes, positionsOfNodes_append, List.mem_append,
      Expr.mem_positions_iff, Clause.mem_positionsOf_iff cases]
  | .importNames names => by
    simp [Stmt.positions, Stmt.nodes, positionsOfNodes, Node.position?]
  | .importFrom origin names => by
    simp [Stmt.positions, Stmt.nodes, positionsOfNodes, Node.position?, eq_comm]
  | .plain parts => Expr.mem_positionsOf_iff parts

/-- The positions in a run of statements are those of their nodes. -/
theorem Stmt.mem_positionsOf_iff {p : Position} :
    (l : List Stmt) → (p ∈ Stmt.positionsOf l ↔ p ∈ positionsOfNodes (Stmt.nodesOf l))
  | [] => .rfl
  | s :: rest => by
    rw [Stmt.positionsOf, Stmt.nodesOf, positionsOfNodes_append, List.mem_append, List.mem_append,
      s.mem_positions_iff, Stmt.mem_positionsOf_iff rest]

/-- The positions in clauses are those of their nodes. -/
theorem Clause.mem_positionsOf_iff {p : Position} :
    (l : List Clause) → (p ∈ Clause.positionsOf l ↔ p ∈ positionsOfNodes (Clause.nodesOf l))
  | [] => .rfl
  | .mk parts body :: rest => by
    simp only [Clause.positionsOf, Clause.nodesOf, positionsOfNodes_append, List.mem_append,
      Expr.mem_positionsOf_iff, Stmt.mem_positionsOf_iff body, Clause.mem_positionsOf_iff rest]

end

mutual

/-- The mentions in an expression are those of its nodes. -/
theorem perm_mentionedBy : (e : Expr) → (mentionedBy e).Perm (mentionsOfNodes e.nodes)
  | .name id start => .refl _
  | .attribute value attr stop => by
    rw [mentionedBy, Expr.nodes, mentionsOfNodes_append]
    exact ((perm_mentionedBy value).cons _).trans (List.perm_append_singleton _ _).symm
  | .call function arguments => by
    rw [mentionedBy, Expr.nodes, mentionsOfNodes_append]
    exact (perm_mentionedBy function).append (perm_mentionedByAll arguments)
  | .subscript value index => by
    rw [mentionedBy, Expr.nodes, mentionsOfNodes_append]
    exact (perm_mentionedBy value).append (perm_mentionedByAll index)
  | .starred value | .keyword _ value => perm_mentionedBy value
  | .tuple items | .list items | .other items => perm_mentionedByAll items

/-- The mentions in some expressions are those of their nodes. -/
theorem perm_mentionedByAll : (l : List Expr) →
    (mentionedByAll l).Perm (mentionsOfNodes (Expr.nodesOf l))
  | [] => .refl _
  | e :: rest => by
    rw [mentionedByAll, Expr.nodesOf, mentionsOfNodes_append]
    exact (perm_mentionedBy e).append (perm_mentionedByAll rest)

end

mutual

/-- The mentions in a statement are those of its nodes. Their order differs: an attribute is
mentioned in front of what it is taken from, and its node stands behind that. -/
theorem perm_mentionedIn : (s : Stmt) → (mentionedIn s).Perm (mentionsOfNodes s.nodes)
  | .classDef start name decorators parts body
  | .functionDef start name decorators parts body => by
    have hopening : mentionsOfNodes [.opening start, .defined name] = [] := rfl
    simp only [mentionedIn, Stmt.nodes, mentionsOfNodes_append, hopening, List.append_nil]
    exact ((perm_mentionedByAll decorators).append (perm_mentionedByAll parts)).append
      (perm_mentionedInAll body)
  | .annotated target typeHint value => by
    simp only [mentionedIn, Stmt.nodes, mentionsOfNodes_append]
    exact ((perm_mentionedBy target).append (perm_mentionedBy typeHint)).append
      (perm_mentionedByAll _)
  | .assign targets value => by
    simp only [mentionedIn, Stmt.nodes, mentionsOfNodes_append]
    exact (perm_mentionedByAll targets).append (perm_mentionedBy value)
  | .ifElse test body orElse => by
    simp only [mentionedIn, Stmt.nodes, mentionsOfNodes_append]
    exact ((perm_mentionedBy test).append (perm_mentionedInAll body)).append
      (perm_mentionedInAll orElse)
  | .tryExcept _ body handlers orElse final => by
    simp only [mentionedIn, Stmt.nodes, mentionsOfNodes_append]
    exact (((perm_mentionedInAll body).append (perm_mentionedInClauses handlers)).append
      (perm_mentionedInAll orElse)).append (perm_mentionedInAll final)
  | .withItems parts body => by
    simp only [mentionedIn, Stmt.nodes, mentionsOfNodes_append]
    exact (perm_mentionedByAll parts).append (perm_mentionedInAll body)
  | .loop parts body orElse => by
    simp only [mentionedIn, Stmt.nodes, mentionsOfNodes_append]
    exact ((perm_mentionedByAll parts).append (perm_mentionedInAll body)).append
      (perm_mentionedInAll orElse)
  | .matchCases subject cases => by
    simp only [mentionedIn, Stmt.nodes, mentionsOfNodes_append]
    exact (perm_mentionedBy subject).append (perm_mentionedInClauses cases)
  | .importNames names => by
    rw [mentionedIn, Stmt.nodes, mentionsOfNodes, List.flatMap_map]
    exact .refl _
  | .importFrom origin names => by
    rw [mentionedIn, Stmt.nodes, mentionsOfNodes, List.flatMap_cons, List.flatMap_map]
    exact .refl _
  | .plain parts => perm_mentionedByAll parts

/-- The mentions in a run of statements are those of their nodes. -/
theorem perm_mentionedInAll : (l : List Stmt) →
    (mentionedInAll l).Perm (mentionsOfNodes (Stmt.nodesOf l))
  | [] => .refl _
  | s :: rest => by
    rw [mentionedInAll, Stmt.nodesOf, mentionsOfNodes_append]
    exact (perm_mentionedIn s).append (perm_mentionedInAll rest)

/-- The mentions in clauses are those of their nodes. -/
theorem perm_mentionedInClauses : (l : List Clause) →
    (mentionedInClauses l).Perm (mentionsOfNodes (Clause.nodesOf l))
  | [] => .refl _
  | .mk parts body :: rest => by
    simp only [mentionedInClauses, Clause.nodesOf, mentionsOfNodes_append]
    exact ((perm_mentionedByAll parts).append (perm_mentionedInAll body)).append
      (perm_mentionedInClauses rest)

end

/-- A node mentions names on the line of its position. -/
theorem Node.exists_position_of_mem_mentions {n : Node} {m : Mention} (h : m ∈ n.mentions) :
    ∃ p, n.position? = some p ∧ p.line = m.line := by
  match n, h with
  | .name _ start, h =>
    obtain rfl := List.mem_singleton.1 h
    exact ⟨start, rfl, rfl⟩
  | .attribute _ stop, h =>
    obtain rfl := List.mem_singleton.1 h
    exact ⟨stop, rfl, rfl⟩
  | .imported i, h =>
    obtain ⟨part, -, rfl⟩ := List.mem_map.1 h
    exact ⟨i.start, rfl, rfl⟩

/-- **A run of statements mentions names on the lines of its positions.** -/
theorem map_line_mentionedInAll (body : List Stmt) :
    (mentionedInAll body).map Mention.line ⊆ (Stmt.positionsOf body).map Position.line := by
  intro line hline
  obtain ⟨m, hm, rfl⟩ := List.mem_map.1 hline
  obtain ⟨n, hn, hm⟩ := List.mem_flatMap.1 ((perm_mentionedInAll body).mem_iff.1 hm)
  obtain ⟨p, hp, hsame⟩ := n.exists_position_of_mem_mentions hm
  have hposition : p ∈ positionsOfNodes (Stmt.nodesOf body) := List.mem_filterMap.2 ⟨n, hn, hp⟩
  exact List.mem_map.2 ⟨p, (Stmt.mem_positionsOf_iff body).2 hposition, hsame⟩

end Python
end DeclSearch
