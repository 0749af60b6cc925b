/-
# Where names are mentioned

A project refers to a symbol wherever one of its modules mentions the symbol's name: by a name, by
an attribute, or by a part of a dotted name in an import statement, however deep these stand in the
module (`MentionedAt`).  The places of a module are in order and without repetitions, and these are
all of them (`references_are_mentions`).

The expressions in an expression are smaller than it is, so what a traversal finds in a tree of
expressions is what it finds at each expression that occurs in the tree (`mem_mentionedBy_iff`).
From the expressions in the statements of a body the induction goes on over its blocks
(`mem_mentionedInAll_iff`); no block and no expression of a statement may be left out for that
(`mem_mentionedIn_iff`).
-/

import DeclSearch.Proofs.Analysis
import DeclSearch.Proofs.SourceOrder

namespace DeclSearch
namespace Python

/-! ### Expressions -/

/-- The expressions that an expression is made of. -/
def Expr.parts : Expr → List Expr
  | .name _ _ => []
  | .attribute value _ _ | .starred value | .keyword _ value => [value]
  | .call function arguments => function :: arguments
  | .subscript value index => value :: index
  | .tuple items | .list items | .other items => items

/-- A part of an expression is smaller than the expression. -/
theorem Expr.sizeOf_lt_of_mem_parts {e part : Expr} (h : part ∈ e.parts) :
    sizeOf part < sizeOf e := by
  match e, h with
  | .attribute value attr stop, h =>
    rw [List.mem_singleton.1 h, attribute.sizeOf_spec]
    omega
  | .starred value, h =>
    rw [List.mem_singleton.1 h, starred.sizeOf_spec]
    omega
  | .keyword _ value, h =>
    rw [List.mem_singleton.1 h, keyword.sizeOf_spec]
    omega
  | .call function arguments, h =>
    rw [call.sizeOf_spec]
    rcases List.mem_cons.1 h with rfl | h
    · omega
    · have hpart := List.sizeOf_lt_of_mem h
      omega
  | .subscript value index, h =>
    rw [subscript.sizeOf_spec]
    rcases List.mem_cons.1 h with rfl | h
    · omega
    · have hpart := List.sizeOf_lt_of_mem h
      omega
  | .tuple items, h =>
    rw [tuple.sizeOf_spec]
    exact Nat.lt_add_left 1 (List.sizeOf_lt_of_mem h)
  | .list items, h =>
    rw [list.sizeOf_spec]
    exact Nat.lt_add_left 1 (List.sizeOf_lt_of_mem h)
  | .other items, h =>
    rw [other.sizeOf_spec]
    exact Nat.lt_add_left 1 (List.sizeOf_lt_of_mem h)

/-- **Induction on expressions.** An expression may rely on its parts, in whatever kind of
expression these stand. -/
theorem parts_induction {P : Expr → Prop} (step : ∀ e, (∀ part ∈ e.parts, P part) → P e)
    (e : Expr) : P e :=
  step e fun part _ => parts_induction step part
  termination_by sizeOf e
  decreasing_by exact Expr.sizeOf_lt_of_mem_parts ‹_›

/-- Whether an expression is another one or stands in it, at any depth. -/
inductive Expr.OccursIn (e : Expr) : Expr → Prop
  | self : e.OccursIn e
  | part {outer part : Expr} (hpart : part ∈ outer.parts) (h : e.OccursIn part) : e.OccursIn outer

/-- What an expression mentions itself. -/
def Expr.ownMentions : Expr → List Mention
  | .name id start => [⟨id, start.line, start.column⟩]
  | .attribute _ attr stop => [⟨attr, stop.line, (stop.column : Int) - attr.length⟩]
  | _ => []

/-- Expressions mention what each of them does. -/
theorem mentionedByAll_eq (l : List Expr) : mentionedByAll l = l.flatMap mentionedBy := by
  induction l with
  | nil => rfl
  | cons e rest ih => rw [mentionedByAll, ih, List.flatMap_cons]

/-- The mentions in an expression: its own, and then those in its parts. -/
theorem mentionedBy_eq (e : Expr) :
    mentionedBy e = e.ownMentions ++ e.parts.flatMap mentionedBy := by
  cases e <;> simp [mentionedBy, mentionedByAll_eq, Expr.ownMentions, Expr.parts]

/-- **The mentions in an expression** are those of the expressions that occur in it. -/
theorem mem_mentionedBy_iff {mention : Mention} (e : Expr) :
    mention ∈ mentionedBy e ↔ ∃ e' : Expr, e'.OccursIn e ∧ mention ∈ e'.ownMentions := by
  induction e using parts_induction with
  | step e ih =>
    rw [mentionedBy_eq, List.mem_append, List.mem_flatMap]
    constructor
    · rintro (hown | ⟨part, hpart, hmention⟩)
      · exact ⟨e, .self, hown⟩
      · obtain ⟨e', he', hown⟩ := (ih part hpart).1 hmention
        exact ⟨e', .part hpart he', hown⟩
    · rintro ⟨e', he', hown⟩
      cases he' with
      | self => exact .inl hown
      | part hpart he' => exact .inr ⟨_, hpart, (ih _ hpart).2 ⟨e', he', hown⟩⟩

/-! ### Statements -/

/-- The expressions in a clause, apart from its body. -/
def Clause.parts : Clause → List Expr
  | .mk parts _ => parts

/-- The expressions in a statement, apart from the bodies in it. -/
def Stmt.parts : Stmt → List Expr
  | .classDef _ _ decorators arguments _ => decorators ++ arguments
  | .functionDef _ _ decorators parts _ => decorators ++ parts
  | .annotated target typeHint value => target :: typeHint :: value.toList
  | .assign targets value => targets ++ [value]
  | .ifElse test _ _ => [test]
  | .tryExcept _ _ handlers _ _ => handlers.flatMap Clause.parts
  | .withItems parts _ | .loop parts _ _ | .plain parts => parts
  | .matchCases subject cases => subject :: cases.flatMap Clause.parts
  | .importNames _ | .importFrom _ _ => []

/-- The names that a statement imports. -/
def Stmt.aliases : Stmt → List Import
  | .importNames names | .importFrom _ names => names
  | _ => []

/-- The module that a statement imports names from. -/
def Stmt.origin? : Stmt → Option Import
  | .importFrom origin _ => some origin
  | _ => none

/-- What a statement mentions apart from the bodies in it. -/
def Stmt.ownMentions (st : Stmt) : List Mention :=
  st.parts.flatMap mentionedBy ++ (st.origin?.toList ++ st.aliases).flatMap Import.mentions

/-- What is mentioned in clauses is mentioned in what they consist of or in their bodies. -/
theorem mem_mentionedInClauses_iff {mention : Mention} (clauses : List Clause) :
    mention ∈ mentionedInClauses clauses ↔
      mention ∈ (clauses.flatMap Clause.parts).flatMap mentionedBy ∨
        ∃ block ∈ clauses.map Clause.body, mention ∈ mentionedInAll block := by
  induction clauses with
  | nil => simp [mentionedInClauses]
  | cons clause rest ih =>
    obtain ⟨parts, body⟩ := clause
    rw [mentionedInClauses, List.mem_append, List.mem_append, ih, mentionedByAll_eq]
    simp only [List.flatMap_cons, List.flatMap_append, List.mem_append, Clause.parts,
      List.map_cons, Clause.body, List.exists_mem_cons_iff]
    tauto

/-- **The mentions in a statement**: its own, and those in the bodies in it. -/
theorem mem_mentionedIn_iff {mention : Mention} (st : Stmt) :
    mention ∈ mentionedIn st ↔
      mention ∈ st.ownMentions ∨ ∃ block ∈ st.blocks, mention ∈ mentionedInAll block := by
  cases st with
  -- The handlers stand between the bodies, so the two sides list the mentions in other orders.
  | tryExcept group body handlers orElse final =>
    simp only [mentionedIn, List.mem_append, mem_mentionedInClauses_iff, Stmt.ownMentions,
      Stmt.parts, Stmt.origin?, Stmt.aliases, Option.toList_none, List.flatMap_nil,
      List.append_nil, Stmt.blocks, List.mem_cons, List.not_mem_nil, or_false, or_and_right,
      exists_or, exists_eq_left, or_assoc]
    exact or_left_comm
  | matchCases subject cases =>
    simp only [mentionedIn, List.mem_append, mem_mentionedInClauses_iff, Stmt.ownMentions,
      Stmt.parts, Stmt.origin?, Stmt.aliases, Option.toList_none, List.flatMap_nil,
      List.flatMap_cons, List.append_nil, Stmt.blocks]
    tauto
  | _ =>
    simp [mentionedIn, mentionedByAll_eq, Stmt.ownMentions, Stmt.parts, Stmt.origin?,
      Stmt.aliases, Stmt.blocks, or_assoc]

/-- **The mentions in a body** are those of the statements that occur in it. -/
theorem mem_mentionedInAll_iff {mention : Mention} (body : List Stmt) :
    mention ∈ mentionedInAll body ↔
      ∃ st, Occurs everyStmt st body ∧ mention ∈ st.ownMentions := by
  induction body using blocks_induction with
  | nil => simp [mentionedInAll, not_occurs_nil]
  | cons first rest ihblocks ihrest =>
    rw [mentionedInAll, List.mem_append, mem_mentionedIn_iff, ihrest]
    constructor
    · rintro ((hown | ⟨block, hblock, hmention⟩) | ⟨st, hst, hown⟩)
      · exact ⟨first, .here List.mem_cons_self, hown⟩
      · obtain ⟨st, hst, hown⟩ := (ihblocks block hblock).1 hmention
        exact ⟨st, .inside List.mem_cons_self rfl hblock hst, hown⟩
      · exact ⟨st, occurs_cons_iff.2 (.inr hst), hown⟩
    · rintro ⟨st, hst, hown⟩
      rcases occurs_cons_iff.1 hst with (rfl | ⟨-, block, hblock, hst⟩) | hst
      · exact .inl (.inl hown)
      · exact .inl (.inr ⟨block, hblock, (ihblocks block hblock).2 ⟨st, hst, hown⟩⟩)
      · exact .inr ⟨st, hst, hown⟩

/-- Whether an expression stands in a body, at any depth of its statements and expressions. -/
def Expr.StandsIn (e : Expr) (body : List Stmt) : Prop :=
  ∃ st, Occurs everyStmt st body ∧ ∃ part ∈ st.parts, e.OccursIn part

/-- Where a body mentions a word: at a name; at an attribute, as many characters in front of where
it stops as the word has; at an imported name that the word is a dotted part of; or at a statement
that imports from a module whose name the word is a dotted part of. -/
inductive MentionedAt (word : String) (body : List Stmt) : Spot → Prop
  | name {start : Position} (h : (Expr.name word start).StandsIn body) :
    MentionedAt word body (start.line, start.column)
  | attribute {value : Expr} {stop : Position}
    (h : (Expr.attribute value word stop).StandsIn body) :
    MentionedAt word body (stop.line, (stop.column : Int) - word.length)
  | alias {st : Stmt} {i : Import} (hst : Occurs everyStmt st body) (hi : i ∈ st.aliases)
    (hword : word ∈ i.names) : MentionedAt word body (i.start.line, i.start.column)
  | origin {st : Stmt} {i : Import} (hst : Occurs everyStmt st body) (hi : st.origin? = some i)
    (hword : word ∈ i.names) : MentionedAt word body (i.start.line, i.start.column)

/-- A name or an attribute that stands in a body mentions its word there, at its own spot. -/
theorem Expr.StandsIn.mentionedAt {body : List Stmt} {mention : Mention} :
    {e : Expr} → e.StandsIn body → mention ∈ e.ownMentions →
      MentionedAt mention.word body (mention.line, mention.column)
  | .name id start, h, hown => by
    rw [List.mem_singleton.1 hown]
    exact .name h
  | .attribute value attr stop, h, hown => by
    rw [List.mem_singleton.1 hown]
    exact .attribute h
  | .call _ _, _, hown | .subscript _ _, _, hown | .starred _, _, hown | .keyword _ _, _, hown
  | .tuple _, _, hown | .list _, _, hown | .other _, _, hown => absurd hown List.not_mem_nil

/-- What an expression in a body mentions itself is mentioned in the body. -/
theorem Expr.StandsIn.mem_mentionedInAll {body : List Stmt} {e : Expr} (h : e.StandsIn body)
    {mention : Mention} (hown : mention ∈ e.ownMentions) : mention ∈ mentionedInAll body := by
  obtain ⟨st, hst, part, hpart, he⟩ := h
  exact (mem_mentionedInAll_iff body).2 ⟨st, hst, List.mem_append_left _ (List.mem_flatMap.2
    ⟨part, hpart, (mem_mentionedBy_iff part).2 ⟨e, he, hown⟩⟩)⟩

/-- What is imported in a body is mentioned there. -/
theorem mem_mentionedInAll_of_imported {body : List Stmt} {st : Stmt} {i : Import}
    (hst : Occurs everyStmt st body) (hi : i ∈ st.origin?.toList ++ st.aliases) {word : String}
    (hword : word ∈ i.names) : ⟨word, i.start.line, i.start.column⟩ ∈ mentionedInAll body :=
  (mem_mentionedInAll_iff body).2 ⟨st, hst, List.mem_append_right _ (List.mem_flatMap.2
    ⟨i, hi, List.mem_map_of_mem hword⟩)⟩

/-- **The mentions in a body** stand where it mentions their words, and nowhere else: at a name, at
the end of an attribute, at an imported name, or at the place of a module that is imported from. -/
theorem mem_mentionedInAll_iff_mentionedAt {body : List Stmt} {word : String} {spot : Spot} :
    ⟨word, spot.1, spot.2⟩ ∈ mentionedInAll body ↔ MentionedAt word body spot := by
  constructor
  · intro h
    obtain ⟨st, hst, hown⟩ := (mem_mentionedInAll_iff body).1 h
    rw [Stmt.ownMentions, List.mem_append, List.mem_flatMap, List.mem_flatMap] at hown
    rcases hown with ⟨part, hpart, hmention⟩ | ⟨i, hi, hmention⟩
    · obtain ⟨e, he, hown⟩ := (mem_mentionedBy_iff part).1 hmention
      exact Expr.StandsIn.mentionedAt ⟨st, hst, part, hpart, he⟩ hown
    · obtain ⟨word, hword, hsame⟩ := List.mem_map.1 hmention
      obtain ⟨line, column⟩ := spot
      cases hsame
      rcases List.mem_append.1 hi with hi | hi
      · exact .origin hst (Option.mem_toList.1 hi) hword
      · exact .alias hst hi hword
  · rintro (h | h | ⟨hst, hi, hword⟩ | ⟨hst, hi, hword⟩)
    · exact h.mem_mentionedInAll (List.mem_singleton_self _)
    · exact h.mem_mentionedInAll (List.mem_singleton_self _)
    · exact mem_mentionedInAll_of_imported hst (List.mem_append_right _ hi) hword
    · exact mem_mentionedInAll_of_imported hst
        (List.mem_append_left _ (Option.mem_toList.2 hi)) hword

/-! ### References -/

/-- Spots are ordered by line, and on one line by column. -/
theorem Spot.le_iff {a b : Spot} : Spot.le a b = true ↔ toLex a ≤ toLex b := by
  rw [Spot.le, decide_eq_true_iff, Prod.Lex.toLex_le_toLex]

/-- Sorting spots and leaving out those that are repeated loses none. -/
theorem mem_distinctSpots_iff {spot : Spot} {spots : List Spot} :
    spot ∈ distinctSpots spots ↔ spot ∈ spots := by
  refine ⟨mem_of_mem_distinctSpots, fun h => ?_⟩
  fun_induction distinctSpots spots with
  | case1 a rest ih => exact ih ((List.mem_cons.1 h).elim (· ▸ List.mem_cons_self) id)
  | case2 a b rest _ ih => exact List.mem_cons.2 ((List.mem_cons.1 h).imp_right ih)
  | case3 => exact h

/-- A sorted list is in strict order when its repetitions are left out. -/
theorem pairwise_distinctSpots {spots : List Spot}
    (h : spots.Pairwise fun a b => toLex a ≤ toLex b) :
    (distinctSpots spots).Pairwise fun a b => toLex a < toLex b := by
  fun_induction distinctSpots spots with
  | case1 a rest ih => exact ih h.of_cons
  | case2 a b rest hne ih =>
    -- What is kept of the rest starts with a spot from `b` on, and `b` is not `a`.
    obtain ⟨hfirst, hrest⟩ := List.pairwise_cons.1 h
    have hlt : toLex a < toLex b := lt_of_le_of_ne (hfirst b List.mem_cons_self) hne
    refine .cons (fun spot hspot => ?_) (ih hrest)
    rcases List.mem_cons.1 (mem_distinctSpots_iff.1 hspot) with rfl | hspot
    · exact hlt
    · exact hlt.trans_le ((List.pairwise_cons.1 hrest).1 spot hspot)
  | case3 spots hshort =>
    rcases spots with _ | ⟨a, _ | ⟨b, rest⟩⟩
    · exact .nil
    · exact List.pairwise_singleton _ _
    · exact (hshort a b rest rfl).elim

/-- The location of a spot in a file. -/
def Spot.inFile (file : String) (spot : Spot) : Location := ⟨file, spot.1, spot.2⟩

/-- In one file the order of spots is that of their places. -/
theorem Spot.place_inFile_lt {file : String} {a b : Spot} (h : toLex a < toLex b) :
    (Spot.inFile file a).place < (Spot.inFile file b).place := by
  unfold Spot.inFile Location.place
  rw [Prod.Lex.toLex_lt_toLex] at h ⊢
  dsimp only
  omega

namespace Module

variable {m : Module} {word : String}

/-- **The spots of a word** are where the module mentions it. -/
theorem mem_spotsOf_iff {spot : Spot} : spot ∈ m.spotsOf word ↔ MentionedAt word m.body spot := by
  rw [spotsOf, mem_distinctSpots_iff, List.mem_mergeSort, List.mem_map,
    ← mem_mentionedInAll_iff_mentionedAt]
  simp only [List.mem_filter, decide_eq_true_iff]
  constructor
  · rintro ⟨mention, ⟨hmention, rfl⟩, rfl⟩
    exact hmention
  · exact fun h => ⟨_, ⟨h, rfl⟩, rfl⟩

/-- The spots of a word are in strict order. -/
theorem pairwise_spotsOf : (m.spotsOf word).Pairwise fun a b => toLex a < toLex b := by
  refine pairwise_distinctSpots ?_
  refine (List.pairwise_mergeSort (fun a b c hab hbc => ?_) (fun a b => ?_) _).imp Spot.le_iff.1
  · exact Spot.le_iff.2 (le_trans (Spot.le_iff.1 hab) (Spot.le_iff.1 hbc))
  · rw [Bool.or_eq_true, Spot.le_iff, Spot.le_iff]
    exact le_total _ _

/-- The references in a module are the spots of the name in its file, without the location of the
symbol. -/
theorem references_eq (m : Module) (s : Symbol) :
    m.references s = ((m.spotsOf s.name).map (Spot.inFile m.path.render)).filter
      fun l => l ≠ s.location := rfl

/-- **A reference in a module** is a spot where the name is mentioned, unless that is the location
of the symbol. -/
theorem mem_references_iff {s : Symbol} {l : Location} :
    l ∈ m.references s ↔
      (∃ spot, MentionedAt s.name m.body spot ∧ Spot.inFile m.path.render spot = l) ∧
        l ≠ s.location := by
  simp only [references_eq, List.mem_filter, List.mem_map, mem_spotsOf_iff, decide_eq_true_iff]

/-- The references in a module come in strict order, by line and column. -/
theorem pairwise_references (s : Symbol) :
    ((m.references s).map Location.place).Pairwise (· < ·) := by
  rw [references_eq, List.pairwise_map]
  refine .filter _ (List.pairwise_map.2 (pairwise_spotsOf.imp Spot.place_inFile_lt))

end Module

open Workspace (Path Tree Quest)

variable {excludedDirs : List String} {tree : Tree} {unit : Path} {p : Project}

/-- The modules of a project stand in the order in which their files are walked. -/
theorem Project.modules_sublist_walk (h : compile excludedDirs tree unit = .ok p) :
    (p.modules.map Module.path).Sublist
      (tree.walk unit.parent (Quest.of [".py"] excludedDirs)) := by
  obtain ⟨-, -, parsed, hparsed, rfl⟩ := compile_eq_ok_iff.1 h
  dsimp only
  generalize tree.walk unit.parent (Quest.of [".py"] excludedDirs) = files at hparsed ⊢
  clear h
  induction parsed generalizing files with
  | nil => exact List.nil_sublist _
  | cons entry rest ih =>
    obtain ⟨file, found⟩ := entry
    cases files with
    | nil => exact nomatch hparsed
    | cons first files =>
      obtain ⟨hfirst, hrest⟩ := List.cons.inj hparsed
      obtain ⟨_, hfound, hsame⟩ := Except.bind_eq_ok_iff.1 hfirst
      cases hsame
      cases found with
      | none => exact (ih files hrest).cons _
      | some m =>
        obtain ⟨rfl, -⟩ := parse?_eq_ok_some_iff.1 hfound
        exact (ih files hrest).cons_cons _

/-- **The references to a symbol are the mentions of its name.**  Where a unit is compiled, the
references are given module by module, in the order in which the files are walked.  Those in a
module are in strict order of line and column, so none is given twice, and they are all places
where the statements of the file mention the symbol's name, but for the symbol's own location. -/
theorem references_are_mentions (h : Project.compile excludedDirs tree unit = .ok p) (s : Symbol) :
    (p.modules.map Module.path).Sublist
      (tree.walk unit.parent (Quest.of [".py"] excludedDirs)) ∧
    p.references s = p.modules.flatMap (fun m => m.references s) ∧
    ∀ m ∈ p.modules, (∃ content, tree.read m.path = .ok content ∧
        statements? content = some m.body) ∧
      ((m.references s).map Location.place).Pairwise (· < ·) ∧
      ∀ l, l ∈ m.references s ↔
        (∃ spot, MentionedAt s.name m.body spot ∧ Spot.inFile m.path.render spot = l) ∧
          l ≠ s.location := by
  refine ⟨Project.modules_sublist_walk h, rfl, fun m hm => ⟨?_, m.pairwise_references s,
    fun l => Module.mem_references_iff⟩⟩
  obtain ⟨-, content, hread, hbody, -⟩ := (Project.mem_modules_iff h).1 hm
  exact ⟨content, hread, hbody⟩

/-- A module that mentions `A` as a decorator, a type, a default, inside of a string, a lambda and a
comprehension, as an attribute, in a pattern and in two imports, before it declares it. -/
def mentionsOfA : Text.Bytes :=
  Text.bytesOf ("@A\ndef f(x: A = A):\n    return f'\x7bA!r\x7d' + (lambda: A)(0) + " ++
    "[A for i in q.A]\nmatch A:\n    case r.A: pass\nfrom . import c\nfrom A.b import d\n" ++
    "import b.A\nclass A: pass\n").toList

/-- Where the module mentions `A`, apart from the class itself. -/
def spotsOfA : List Spot := [
  (1, 1), (2, 9), (2, 13), (3, 14), (3, 31), (3, 40), (3, 53), (4, 6), (5, 11), (7, 0), (8, 7)]

/-- The hypothesis of `references_are_mentions` is satisfiable: the unit of the module is compiled,
and every mention of `A` is a reference to the class. -/
theorem references_are_mentions_ofA :
    ∃ p, Project.compile (profile []).excludedDirs (loneModule mentionsOfA) loneUnit = .ok p ∧
      ∃ m ∈ p.modules, ∀ spot ∈ spotsOfA, Spot.inFile "m.py" spot ∈
        m.references ⟨"A", "m.A", "class", ⟨"m.py", 9, 0⟩, [], []⟩ := by
  have hparsed : (statements? mentionsOfA).map (fun body =>
      decide (∀ spot ∈ spotsOfA, ⟨"A", spot.1, spot.2⟩ ∈ mentionedInAll body)) = some true := by
    decide +kernel
  obtain ⟨body, hbody, hmentions⟩ := Option.map_eq_some_iff.1 hparsed
  obtain ⟨p, hp, -⟩ := compile_loneModule hbody
  have hm : ⟨loneFile, "m", body, false⟩ ∈ p.modules := by
    have hname : Module.nameOf loneUnit.parent loneFile = .ok "m" := by decide +kernel
    have hbytes : false = mentionsOfA.isEmpty := by decide +kernel
    have hwants : (Quest.of [".py"] (profile []).excludedDirs).wants "m.py" = true := by
      decide +kernel
    have hparent : loneUnit.parent = .here := rfl
    refine (Project.mem_modules_iff hp).2 ⟨?_, mentionsOfA, rfl, hbody, hname, hbytes⟩
    rw [hparent, walk_loneModule, hwants]
    exact List.mem_append_left _ (List.mem_singleton_self _)
  obtain ⟨-, -, hmodules⟩ :=
    references_are_mentions hp ⟨"A", "m.A", "class", ⟨"m.py", 9, 0⟩, [], []⟩
  refine ⟨p, hp, _, hm, fun spot hspot => ((hmodules _ hm).2.2 _).2 ⟨⟨spot, ?_, rfl⟩, ?_⟩⟩
  · exact mem_mentionedInAll_iff_mentionedAt.1 (of_decide_eq_true hmentions spot hspot)
  · revert spot
    decide

end Python
end DeclSearch
