/-
# The columns of attributes

An attribute is placed by where it stops, which is counted in octets, less the characters of its
name, and the name is the normal form of the identifier in the text.  So the column is that of the
identifier where this has as many octets as its normal form has characters, as it has in ASCII, and
nowhere else: where it has more, the column is inside of the identifier, and where it has fewer, the
column is in front of it and may be below zero (`attribute_columns`,
`accented_attribute_is_misplaced`).

An identifier has more octets than half the characters of its normal form, so of two identifiers
that are written apart and have one normal form the columns still differ, whether they are names or
attributes (`Spelling.IsAt.ne_of_apart`).  In a project that is compiled every name and every
attribute has such an identifier (`Project.exists_spelling`).
-/

import DeclSearch.Proofs.DeclaringNodes

namespace DeclSearch
namespace Python

open Workspace (Path Tree)

namespace Spelling

variable {name : String} (sp : Spelling name)

/-- The column that is left of where an identifier stops when the characters of its name are taken
away. -/
def column : Int := sp.stop.column - name.length

/-- The column of an attribute is the start of its identifier, further on by the octets of this and
back by the characters of the name. -/
theorem column_eq :
    sp.column = (sp.start.column : Int) + Text.encodedSize sp.letters - name.length := by
  simp [column, stop, start]

/-- A name is not empty, and shorter than twice the octets of the identifier. -/
theorem length_bounds : 0 < name.length ∧ name.length < 2 * Text.encodedSize sp.letters := by
  obtain ⟨hcomponent, hlength⟩ := sp.isComponent_and_length_lt
  refine ⟨Nat.pos_of_ne_zero fun hzero => ?_, hlength⟩
  exact hcomponent.ne_empty (String.length_eq_zero_iff.1 hzero)

/-- A name in ASCII has as many characters as the identifier has octets. -/
theorem length_of_ascii (h : ∀ c ∈ sp.letters, c.toNat < 128) :
    name.length = Text.encodedSize sp.letters := by
  have hname : String.ofList sp.letters = name :=
    (Text.normalForm_of_ascii h).symm.trans sp.normalForm_eq
  rw [(Text.encodedSize_eq_length_iff _).2 h, ← String.length_ofList, hname]

/-- An identifier that is its own normal form has as many octets as its name has characters only in
ASCII. -/
theorem length_eq_octets_iff (h : name = String.ofList sp.letters) :
    name.length = Text.encodedSize sp.letters ↔ ∀ c ∈ sp.letters, c.toNat < 128 := by
  have hlength : name.length = sp.letters.length := by
    rw [← String.length_ofList, ← h]
  rw [← Text.encodedSize_eq_length_iff, hlength, eq_comm]

/-- Whether two identifiers are written apart: on different lines, or one in front of the other. -/
def Apart (a b : Spelling name) : Prop :=
  a.line = b.line → a.stop.column ≤ b.start.column ∨ b.stop.column ≤ a.start.column

/-- Whether a spot is one that may be given for an identifier: that where it starts, or one that is
taken from where it stops. -/
def IsAt (spot : Spot) : Prop :=
  spot.1 = sp.line ∧ (spot.2 = sp.start.column ∨ spot.2 = sp.column)

/-- **Identifiers of one name that are written apart have different spots**, wrong as a spot that is
taken from where an identifier stops may be. -/
theorem IsAt.ne_of_apart {sp other : Spelling name} {spot spot' : Spot} (h : sp.IsAt spot)
    (h' : other.IsAt spot') (hapart : sp.Apart other) : spot ≠ spot' := by
  rintro rfl
  obtain ⟨hline, hcolumn⟩ := h
  obtain ⟨hline', hcolumn'⟩ := h'
  -- The two identifiers together have more octets than their name has characters, so the way from
  -- the spot to the end of one of them does not lead over the other.
  have hbounds := sp.length_bounds
  have hbounds' := other.length_bounds
  have hapart := hapart (hline.symm.trans hline')
  unfold column at hcolumn hcolumn'
  unfold start stop at hapart hcolumn hcolumn'
  dsimp only at hapart hcolumn hcolumn'
  omega

/-- Whether an identifier is a use of its name in a body, and the spot that is given for it: a name
has the spot where it starts, and an attribute one that is taken from where it stops. -/
inductive Uses {name : String} (sp : Spelling name) (body : List Stmt) : Spot → Prop
  | name (h : (Expr.name name sp.start).StandsIn body) :
    Uses sp body (sp.line, sp.start.column)
  | attribute {value : Expr} (h : (Expr.attribute value name sp.stop).StandsIn body) :
    Uses sp body (sp.line, sp.column)

variable {sp} {body : List Stmt} {spot : Spot}

/-- The spot of a use is one where the name is mentioned. -/
theorem Uses.mentionedAt (h : sp.Uses body spot) : MentionedAt name body spot := by
  rcases h with h | h
  · exact .name h
  · exact .attribute h

/-- A use is at a spot that may be given for its identifier. -/
theorem Uses.isAt (h : sp.Uses body spot) : sp.IsAt spot := by
  rcases h with h | h
  · exact ⟨rfl, .inl rfl⟩
  · exact ⟨rfl, .inr rfl⟩

end Spelling

/-! ### Modules that are read -/

section Nodes

variable {n : Node}

/-- The nodes of a part of an expression are nodes of the expression. -/
theorem Expr.mem_nodes_of_mem_parts {e part : Expr} (h : part ∈ e.parts) (hn : n ∈ part.nodes) :
    n ∈ e.nodes := by
  match e, h with
  | .attribute .., h =>
    obtain rfl := List.mem_singleton.1 h
    exact List.mem_append_left _ hn
  | .starred _, h | .keyword .., h =>
    obtain rfl := List.mem_singleton.1 h
    exact hn
  | .call .., h | .subscript .., h =>
    rw [nodes, nodesOf_eq, ← List.flatMap_cons]
    exact List.mem_flatMap.2 ⟨part, h, hn⟩
  | .tuple _, h | .list _, h | .other _, h =>
    rw [nodes, nodesOf_eq]
    exact List.mem_flatMap.2 ⟨part, h, hn⟩

/-- The nodes of whatever occurs in an expression are nodes of the expression. -/
theorem Expr.OccursIn.mem_nodes {e outer : Expr} (h : e.OccursIn outer) (hn : n ∈ e.nodes) :
    n ∈ outer.nodes := by
  induction h with
  | self => exact hn
  | part hpart _ ih => exact mem_nodes_of_mem_parts hpart ih

/-- The nodes of what clauses consist of are nodes of the clauses. -/
theorem Clause.mem_nodesOf_of_mem_parts {clauses : List Clause}
    (hn : n ∈ (clauses.flatMap Clause.parts).flatMap Expr.nodes) : n ∈ Clause.nodesOf clauses := by
  rw [List.flatMap_assoc] at hn
  obtain ⟨⟨parts, body⟩, hclause, hn⟩ := List.mem_flatMap.1 hn
  rw [nodesOf_eq]
  refine List.mem_flatMap.2 ⟨_, hclause, List.mem_append_left _ ?_⟩
  rwa [Expr.nodesOf_eq]

/-- The nodes of what a statement consists of are nodes of the statement. -/
theorem Stmt.mem_nodes_of_mem_parts {st : Stmt} (hn : n ∈ st.parts.flatMap Expr.nodes) :
    n ∈ st.nodes := by
  cases st with
  | tryExcept =>
    have hclauses := Clause.mem_nodesOf_of_mem_parts hn
    simp only [nodes, List.mem_append]
    tauto
  | matchCases =>
    rw [parts, List.flatMap_cons, List.mem_append] at hn
    rw [nodes, List.mem_append]
    exact hn.imp_right Clause.mem_nodesOf_of_mem_parts
  | importNames | importFrom => exact absurd hn List.not_mem_nil
  | _ =>
    simp only [parts, List.flatMap_append, List.flatMap_cons, List.flatMap_nil, List.append_nil,
      List.mem_append] at hn
    simp only [nodes, Expr.nodesOf_eq, List.mem_append]
    tauto

/-- The nodes of an expression that stands in a body are nodes of the body. -/
theorem Expr.StandsIn.mem_nodesOf {e : Expr} {body : List Stmt} (h : e.StandsIn body)
    (hn : n ∈ e.nodes) : n ∈ Stmt.nodesOf body := by
  obtain ⟨st, hst, part, hpart, he⟩ := h
  exact hst.nodes_isInfix.subset
    (Stmt.mem_nodes_of_mem_parts (List.mem_flatMap.2 ⟨part, hpart, he.mem_nodes hn⟩))

end Nodes

/-- The nodes of an expression that stands in a module stand for words of its text. -/
theorem Expr.StandsIn.exists_token {content : Text.Bytes} {body : List Stmt}
    (hbody : statements? content = some body) {e : Expr} (he : e.StandsIn body) {n : Node}
    (hn : n ∈ e.nodes) : ∃ t : Token, t.Sound ∧ n.Of t :=
  Python.exists_token hbody (he.mem_nodesOf hn)

/-- **Every use in a project has an identifier.**  A name or an attribute that stands in a module of
a project that is compiled is written with an identifier, with which it is a use of its name; so
`attribute_columns` tells of each of them where it is reported. -/
theorem Project.exists_spelling {excludedDirs : List String} {tree : Tree} {unit : Path}
    {p : Project} (hp : compile excludedDirs tree unit = .ok p) {m : Module} (hm : m ∈ p.modules)
    {e : Expr} (he : e.StandsIn m.body) {mention : Mention} (hown : mention ∈ e.ownMentions) :
    ∃ sp : Spelling mention.word, sp.Uses m.body (mention.line, mention.column) := by
  obtain ⟨-, content, -, hbody, -⟩ := (mem_modules_iff hp).1 hm
  match e, hown with
  | .name id start, hown =>
    obtain rfl := List.mem_singleton.1 hown
    obtain ⟨t, ht, ⟨plain, hword⟩, hof⟩ :=
      he.exists_token hbody (List.mem_singleton_self (Node.name id start))
    obtain ⟨sp, hstart, -⟩ := ht.spelled id plain hword
    have hstart := hstart.trans hof
    have huse : sp.Uses m.body (sp.start.line, sp.start.column) := .name (by rwa [hstart])
    exact ⟨sp, by rwa [hstart] at huse⟩
  | .attribute value attr stop, hown =>
    obtain rfl := List.mem_singleton.1 hown
    obtain ⟨t, ht, ⟨plain, hword⟩, hof⟩ := he.exists_token hbody
      (List.mem_append_right value.nodes (List.mem_singleton_self (Node.attribute attr stop)))
    obtain ⟨sp, -, hstop⟩ := ht.spelled attr plain hword
    have hstop := hstop.trans hof
    have huse : sp.Uses m.body (sp.stop.line, sp.stop.column - attr.length) :=
      .attribute (by rwa [hstop])
    exact ⟨sp, by rwa [hstop] at huse⟩

/-! ### References -/

/-- **Where attributes are reported.**  Take an attribute in a module of a project, and the
identifier that it is written with, up to where it stops.  For a symbol of its name it is reported,
unless the symbol is declared at that very place; the column is the one where the identifier starts
if its octets are as many as the characters of its name, as they are in ASCII, and only then.  An
identifier that is its own normal form has as many only in ASCII.  Where there are at least as many
octets the column is one of the identifier, and in any case it is not as far in front of it as it is
long.  No other name or attribute is reported at this place if its identifier is written apart. -/
theorem attribute_columns {p : Project} {m : Module} (hm : m ∈ p.modules) (s : Symbol)
    (sp : Spelling s.name) {value : Expr}
    (h : (Expr.attribute value s.name sp.stop).StandsIn m.body) :
    (⟨m.path.render, sp.line, sp.column⟩ ∈ p.references s ↔
      (⟨m.path.render, sp.line, sp.column⟩ : Location) ≠ s.location) ∧
    (sp.column = sp.start.column ↔ s.name.length = Text.encodedSize sp.letters) ∧
    ((∀ c ∈ sp.letters, c.toNat < 128) → s.name.length = Text.encodedSize sp.letters) ∧
    (s.name = String.ofList sp.letters →
      (s.name.length = Text.encodedSize sp.letters ↔ ∀ c ∈ sp.letters, c.toNat < 128)) ∧
    (s.name.length ≤ Text.encodedSize sp.letters →
      (sp.start.column : Int) ≤ sp.column ∧ sp.column < sp.stop.column) ∧
    (sp.start.column : Int) - Text.encodedSize sp.letters < sp.column ∧
    ∀ (other : Spelling s.name) (spot : Spot), other.Uses m.body spot → other.Apart sp →
      spot ≠ (sp.line, sp.column) := by
  have huse : sp.Uses m.body (sp.line, sp.column) := .attribute h
  have hbounds := sp.length_bounds
  have hcolumn := sp.column_eq
  refine ⟨⟨fun href => ?_, fun hne => ?_⟩, ?_, sp.length_of_ascii, sp.length_eq_octets_iff,
    fun hle => ⟨?_, ?_⟩, ?_,
    fun other spot hother hapart => hother.isAt.ne_of_apart huse.isAt hapart⟩
  · obtain ⟨other, -, href⟩ := List.mem_flatMap.1 href
    exact (Module.mem_references_iff.1 href).2
  · exact List.mem_flatMap.2 ⟨m, hm, Module.mem_references_iff.2 ⟨⟨_, huse.mentionedAt, rfl⟩, hne⟩⟩
  · omega
  · omega
  · have hstop : sp.stop.column = sp.start.column + Text.encodedSize sp.letters := rfl
    omega
  · omega

/-- What a body of one attribute of a name is made of. -/
def loneAttribute? : List Stmt → Option (String × Position × String × Position)
  | [.plain [.attribute (.name id start) attr stop]] => some (id, start, attr, stop)
  | _ => none

/-- A body in which one attribute is found is that attribute. -/
theorem eq_of_loneAttribute? {body : List Stmt} {id attr : String} {start stop : Position}
    (h : loneAttribute? body = some (id, start, attr, stop)) :
    body = [.plain [.attribute (.name id start) attr stop]] := by
  unfold loneAttribute? at h
  split at h
  · cases h
    rfl
  · exact nomatch h

/-- A module that uses a name twice, the second time as an attribute. -/
def nameAndAttribute : Text.Bytes := Text.bytesOf "A.A\n".toList

/-- The hypotheses of `attribute_columns` are satisfiable: the attribute is reported where its
identifier starts, and the name in front of it at another place. -/
theorem attribute_columns_nameAndAttribute :
    ∃ p body, (backend []).compile (loneModule nameAndAttribute) loneUnit = .ok p ∧
      ⟨loneFile, "m", body, false⟩ ∈ p.modules ∧
      (Expr.attribute (.name "A" ⟨1, 0⟩) "A" ⟨1, 3⟩).StandsIn body ∧
      ⟨"m.py", 1, 2⟩ ∈ p.references ⟨"A", "n.A", "class", ⟨"n.py", 1, 0⟩, [], []⟩ ∧
      ((1, 0) : Spot) ≠ (1, 2) := by
  have hparsed : (statements? nameAndAttribute).bind loneAttribute? =
      some ("A", ⟨1, 0⟩, "A", ⟨1, 3⟩) := by
    decide +kernel
  obtain ⟨body, hbody, hlone⟩ := Option.bind_eq_some_iff.1 hparsed
  obtain rfl := eq_of_loneAttribute? hlone
  obtain ⟨p, hp, -⟩ := compile_loneModule hbody
  have hm := mem_modules_loneModule hbody (by decide +kernel) hp
  have hattribute : (Expr.attribute (.name "A" ⟨1, 0⟩) "A" ⟨1, 3⟩).StandsIn
      [.plain [.attribute (.name "A" ⟨1, 0⟩) "A" ⟨1, 3⟩]] :=
    ⟨_, .here List.mem_cons_self, _, List.mem_singleton_self _, .self⟩
  have hname : (Expr.name "A" ⟨1, 0⟩).StandsIn
      [.plain [.attribute (.name "A" ⟨1, 0⟩) "A" ⟨1, 3⟩]] :=
    ⟨_, .here List.mem_cons_self, _, List.mem_singleton_self _,
      .part (List.mem_singleton_self _) .self⟩
  have hnormal : Text.normalForm (String.ofList ['A']) = "A" := by decide
  have hletters : Text.isIdentifier ['A'] := by decide
  let first : Spelling "A" := ⟨1, 0, ['A'], hletters, hnormal⟩
  let second : Spelling "A" := ⟨1, 2, ['A'], hletters, hnormal⟩
  obtain ⟨href, -, -, -, -, -, hother⟩ :=
    attribute_columns hm ⟨"A", "n.A", "class", ⟨"n.py", 1, 0⟩, [], []⟩ second hattribute
  have hapart : first.Apart second := fun _ => .inl (Nat.le_succ 1)
  have hfile : loneFile.render ≠ "n.py" := by decide
  exact ⟨p, _, hp, hm, hattribute, href.2 fun h => hfile (congrArg Location.file h),
    hother first _ (.name hname) hapart⟩

/-- A module that uses a name with an accent as an attribute. -/
def accentedAttribute : Text.Bytes := Text.bytesOf (Text.octetsOfChars "a.é\n".toList)

/-- **An attribute with an accent is misplaced.**  Its identifier starts behind two octets and takes
two more; the only reference is one octet further on, inside of the identifier. -/
theorem accented_attribute_is_misplaced :
    ∃ p, (backend []).compile (loneModule accentedAttribute) loneUnit = .ok p ∧
      p.references ⟨"é", "n.é", "class", ⟨"n.py", 1, 0⟩, [], []⟩ = [⟨"m.py", 1, 3⟩] ∧
      ∃ sp : Spelling "é",
        (∀ m ∈ p.modules, (Expr.attribute (.name "a" ⟨1, 0⟩) "é" sp.stop).StandsIn m.body) ∧
        sp.start = ⟨1, 2⟩ ∧ sp.stop = ⟨1, 4⟩ := by
  have hparsed : (statements? accentedAttribute).bind loneAttribute? =
      some ("a", ⟨1, 0⟩, "é", ⟨1, 4⟩) := by
    decide +kernel
  obtain ⟨body, hbody, hlone⟩ := Option.bind_eq_some_iff.1 hparsed
  obtain rfl := eq_of_loneAttribute? hlone
  obtain ⟨p, hp, hmodules⟩ := exists_compile_loneModule hbody
  have hnormal : Text.normalForm (String.ofList ['é']) = "é" := by decide +kernel
  have hletters : Text.isIdentifier ['é'] := by decide +kernel
  refine ⟨p, hp, ?_, ⟨1, 2, ['é'], hletters, hnormal⟩, ?_, rfl, rfl⟩
  · rw [Project.references, hmodules]
    decide +kernel
  · intro m hm
    rw [hmodules, List.mem_singleton] at hm
    subst hm
    exact ⟨_, .here List.mem_cons_self, _, List.mem_singleton_self _, .self⟩

end Python
end DeclSearch
