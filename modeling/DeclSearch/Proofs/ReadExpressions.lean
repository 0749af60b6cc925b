/-
# The nodes of expressions

What an expression keeps of the words it is read from, stands for leaves of its tokens, in order
(`reads_rules`).  There is one lemma for each rule of the grammar, and its proof follows the rule;
what a rule contains is an assumption, as it is an argument of the rule.

The expressions in a format literal are read from text of the literal, which the lexer cuts anew;
`traces_literalParts` is the place where the two meet, one level deeper.
-/

import DeclSearch.Proofs.Readers
import DeclSearch.Python.Expression

namespace DeclSearch
namespace Python
namespace Grammar

open Parse

variable {depth fuel : Nat} {before : List Node} {r : Rules}

/-- Nodes of expressions that come in lists. -/
theorem flatMap_nodes_flatten (l : List (List Expr)) :
    l.flatten.flatMap Expr.nodes = l.flatMap fun es => es.flatMap Expr.nodes := by
  rw [List.flatten_eq_flatMap, List.flatMap_assoc]
  rfl

/-- Operands with operators between them keep the nodes of the operands, since an operator keeps
none. -/
theorem reads_chain {item : Parse Expr} {operator : Parse Unit}
    (hitem : Reads depth item Expr.nodes) (hoperator : Passes depth operator) :
    Reads depth (chain fuel item operator) Expr.nodes := by
  have hmore : Reads depth (do operator; item) Expr.nodes := .pass hoperator fun _ => hitem
  exact .bind hitem fun _ => .read (hmore.many fuel) fun _ =>
    .ite (.pure (by simp)) (.pure (by simp [Expr.nodes]))

/-- Items between commas keep the nodes of the items, be it one expression or a tuple. -/
theorem reads_tupleOf {item : Parse Expr} (hitem : Reads depth item Expr.nodes) :
    Reads depth (tupleOf fuel item) Expr.nodes :=
  .bind (hitem.commaList fuel) fun _ => by
    split
    · exact .pure (by simp)
    · exact .pure (by simp [Expr.nodes])

/-! ### Reports

A report looks at the tokens and halts, or it leaves them as they are. -/

section

variable {start behind ts : List Token} {e : Expr}

/-- Blaming an expression gives the text up, so there are no nodes to account for. -/
theorem passes_blameExpression : Passes depth (blameExpression r start behind) := takes_blame

/-- A report on an assignment looks ahead at most, and puts back what it has looked at. -/
theorem passes_reportAssignment (start : List Token) :
    Passes depth (reportAssignment r start) := by
  refine .ite (.pass passes_get fun behind => .test passes_atSign ?_ (.test passes_atSign ?_ ?_)) ?_
  · exact .test passes_isAhead passes_blameExpression (.pure (.refl []))
  · refine .pass passes_tryOn fun _ => .pass passes_tryOn fun _ => .ite ?_ (.pure (.refl []))
    exact .test passes_isAhead passes_blameExpression (.pure (.refl []))
  · exact .pure (.refl [])
  · exact .pure (.refl [])

/-- A report on the targets of a loop leaves the tokens as they are. -/
theorem passes_reportTargets : Passes depth (reportTargets fuel r) := by
  refine .ite (.pass passes_get fun start => .test passes_isAhead (.pure (.refl [])) ?_)
    (.pure (.refl []))
  exact .pass passes_tryOn fun _ => .ite passes_tryOn.discard (.pure (.refl []))

/-- Asking whether a comprehension goes on keeps no nodes. -/
theorem passes_atFor : Passes depth atFor :=
  .pass passes_atKeyword fun _ => .pass passes_atKeyword fun _ => .pure (.refl [])

/-- A report on what stands in front of a comprehension keeps no nodes. -/
theorem passes_reportComprehension : Passes depth (reportComprehension fuel r start behind) := by
  refine .pass passes_atFor fun _ => .ite ?_ (.pure (.refl []))
  exact .test passes_isAhead passes_blameExpression (.pure (.refl []))

/-- A report on a starred expression behind a bracket keeps no nodes. -/
theorem passes_reportStarred {alone : Bool} {ends : List String} :
    Passes depth (reportStarred fuel r alone ends) := by
  refine .pass passes_atSign fun _ => .ite ?_ (.pure (.refl []))
  refine .test passes_isAhead (.pure (.refl [])) (.test passes_isAhead ?_ (.pure (.refl [])))
  exact .pass passes_get fun _ => takes_blame

/-- A report on an unpacked mapping in round brackets keeps no nodes. -/
theorem passes_reportMapping : Passes depth (reportMapping r) := by
  refine .pass passes_atSign fun _ => .ite ?_ (.pure (.refl []))
  exact .test passes_isAhead (.pass passes_get fun _ => takes_blame) (.pure (.refl []))

/-- A report on a key without a value keeps no nodes. -/
theorem passes_reportKey : Passes depth (reportKey r start) :=
  .test passes_atSign (.pure (.refl [])) (.pass passes_get fun _ => takes_halt)

/-- A report on what stands in the place of a value keeps no nodes. -/
theorem passes_reportValue : Passes depth (reportValue r start) :=
  .test passes_atAnySign takes_blame
    (.test passes_isAhead (.pass passes_get fun _ => takes_blame) (.pure (.refl [])))

/-- A report on what stands in the place of an argument's name keeps no nodes. -/
theorem passes_reportArgumentName : Passes depth (reportArgumentName r start) := by
  refine .pass passes_atSign fun _ => .ite (.pass passes_get fun _ => ?_) (.pure (.refl []))
  exact .pass passes_tryOn fun _ => .ite passes_blameExpression (.pure (.refl []))

/-- A report on what stands in the place of a named argument keeps no nodes. -/
theorem passes_reportArgument : Passes depth (reportArgument fuel r) := by
  refine .ite (.pass passes_get fun _ => .pass passes_tryOn.discard fun _ => ?_) (.pure (.refl []))
  exact .pass passes_tryOn fun _ => .ite takes_halt (.pure (.refl []))

/-- A look at a comprehension behind an argument keeps no nodes. -/
theorem passes_reportGeneratorArgument {first : Bool} :
    Passes depth (reportGeneratorArgument fuel r first start behind) :=
  .ite passes_reportComprehension (.ite passes_isAhead.discard (.pure (.refl [])))

/-- A report on a comprehension in the wrong brackets keeps no nodes. -/
theorem passes_reportGenerator : Passes depth (reportGenerator fuel r) :=
  .ite passes_isAhead.discard (.pure (.refl []))

/-- A report on an expression in front of another one keeps no nodes. -/
theorem passes_reportPair : Passes depth (reportPair r start) := by
  refine .ite (.pass passes_get fun _ => .pass passes_isAhead fun _ => .ite ?_ ?_)
    (.pure (.refl []))
  · exact passes_blameExpression
  · exact .pure (.refl [])

/-- A report on a function that is used like the statement it was keeps no nodes. -/
theorem passes_reportFormer : Passes depth (reportFormer fuel r start) := by
  unfold reportFormer
  split
  · refine .ite (.pass passes_tryOn fun _ => ?_) (.pure (.refl []))
    exact .ite takes_blame (.pure (.refl []))
  · exact .pure (.refl [])

/-- A report on a condition without its other case keeps no nodes. -/
theorem passes_reportChoice {inner : Rules} :
    Passes depth (reportChoice r inner start behind) :=
  .ite (.test passes_isAhead passes_blameExpression (.pure (.refl []))) (.pure (.refl []))

/-- A report on something in a list of parameters keeps no nodes. -/
theorem passes_reportParameter {p : Parse Unit} : Passes depth (reportParameter r start p) :=
  .ite (.test passes_isAhead takes_blame (.pure (.refl []))) (.pure (.refl []))

/-- A report on a value that a parameter cannot have keeps no nodes. -/
theorem passes_reportDefault : Passes depth (reportDefault r) :=
  .pass passes_get fun _ => passes_reportParameter

/-- A report on what stands behind the last parameter keeps no nodes. -/
theorem passes_reportLast : Passes depth (reportLast r) :=
  .pass passes_reportDefault fun _ => .pass passes_get fun _ => passes_reportParameter

/-- A report on parameters in brackets keeps no nodes. -/
theorem passes_reportBracketed {s : ParameterState} : Passes depth (reportBracketed fuel r s) :=
  .ite (.pass passes_get fun _ => passes_reportParameter) (.pure (.refl []))

/-- Refusing a parameter halts in every case, so it may claim any nodes. -/
theorem takes_refuseParameter {α : Type} {nodes : α → List Node} :
    Takes depth before (refuseParameter r start) nodes :=
  .ite takes_blame takes_mismatch

/-- Refusing a star without a name behind it halts in every case, so it may claim any nodes. -/
theorem takes_refuseBareStar {α : Type} {nodes : α → List Node} :
    Takes depth before (refuseBareStar r) nodes :=
  .ite takes_halt takes_mismatch

end

/-! ### Rules -/

/-- The expressions in a literal, where they can be read. -/
def literalExpressions (fuel : Nat) (r : Rules) (l : Literal) : List Expr :=
  if l.isFormat then
    (((Format.slots l).toOption.getD []).mapM (slotExpression fuel r l)).toOption.getD []
  else []

/-- What is read inside a literal does not depend on where it stands. -/
theorem eq_literalExpressions {behind : List Token} {ofBytes : Bool} {entry : Token × Literal}
    {parts : List Expr} (h : literalParts fuel r behind ofBytes entry = .ok parts) :
    parts = literalExpressions fuel r entry.2 := by
  obtain ⟨t, l⟩ := entry
  unfold literalParts at h
  unfold literalExpressions
  dsimp only at h ⊢
  iterate 4 split at h; · exact nomatch h
  split at h
  · next hformat =>
    rw [if_pos hformat]
    split at h
    · next slots hslots => rw [hslots, Except.toOption, Option.getD_some, h]; rfl
    · obtain ⟨_, -, h⟩ := Except.bind_eq_ok_iff.1 h
      exact nomatch h
  · next hformat =>
    rw [if_neg hformat]
    exact (Except.ok.inj h).symm

section

variable (hr : ∀ purpose rule, Reads depth (r.reader purpose rule) Expr.nodes)

include hr

/-- A starred operand keeps the nodes of the operand. -/
theorem reads_starredOperand : Reads depth (starredOperand r) Expr.nodes :=
  .pass passes_word.discard fun _ => .bind (hr _ _) fun _ => .pure (by simp [Expr.nodes])

/-- A name with a value keeps the name and then the nodes of the value, as they are written. -/
theorem reads_walrus : Reads depth (walrus r) Expr.nodes :=
  .bind reads_nameStart fun _ => .pass passes_word.discard fun _ =>
    .read (hr _ _) fun _ => .pure (by simp [Expr.nodes])

/-- What may be named is read alike, whatever report is made on it. -/
theorem reads_nameable {report : List Token → Parse Unit}
    (hreport : ∀ start, Passes depth (report start)) : Reads depth (nameable r report) Expr.nodes :=
  .test passes_atNameAndSign (reads_walrus hr) (.pass passes_get fun _ => .bind (hr _ _) fun _ =>
    .pass (hreport _) fun _ => .test passes_atSign takes_mismatch (.pure (.refl _)))

/-- An expression that may be named keeps its nodes, whatever is reported on it. -/
theorem reads_namedExpression : Reads depth (namedExpression r) Expr.nodes :=
  reads_nameable hr passes_reportAssignment

/-- The value of an argument keeps its nodes. -/
theorem reads_argumentValue : Reads depth (argumentValue r) Expr.nodes :=
  reads_nameable hr fun _ => .pure (.refl [])

/-- An item in brackets keeps its nodes, starred or not. -/
theorem reads_starNamedExpression : Reads depth (starNamedExpression r) Expr.nodes :=
  .test passes_atSign (reads_starredOperand hr) (reads_namedExpression hr)

/-- An item without brackets keeps its nodes, starred or not. -/
theorem reads_starExpression : Reads depth (starExpression r) Expr.nodes :=
  .test passes_atSign (reads_starredOperand hr) (hr _ _)

/-- A list of items without brackets keeps the nodes of the items. -/
theorem reads_starExpressions : Reads depth (starExpressions fuel r) Expr.nodes :=
  reads_tupleOf (reads_starExpression hr)

/-- What is yielded keeps its nodes; the keywords in front of it keep none. -/
theorem reads_yieldExpression : Reads depth (yieldExpression fuel r) Expr.nodes :=
  .pass passes_word.discard fun _ => .test passes_atKeyword
    (.pass passes_next.discard fun _ => .bind (hr _ _) fun _ => .pure (by simp [Expr.nodes]))
    (.bind (reads_starExpressions hr).attempt fun _ => .pure (by simp [Expr.nodes]))

/-- What stands on the right of an equals sign keeps its nodes. -/
theorem reads_assignedValue : Reads depth (assignedValue fuel r) Expr.nodes :=
  .test passes_atKeyword (reads_yieldExpression hr) (reads_starExpressions hr)

/-- A single thing that is assigned to keeps its nodes. -/
theorem reads_starTarget : Reads depth (starTarget r) Expr.nodes := by
  refine .test passes_atSign (.pass passes_next.discard fun _ => ?_) ?_
  · exact .bind (hr _ _) fun _ => .ite (.pure (by simp [Expr.nodes])) takes_mismatch
  · exact .bind (hr _ _) fun _ => .ite (.pure (.refl _)) takes_mismatch

/-- The things that a loop assigns to keep their nodes. -/
theorem reads_starTargets : Reads depth (starTargets fuel r) Expr.nodes :=
  reads_tupleOf (reads_starTarget hr)

/-- One `for` of a comprehension keeps the nodes of its targets, of what it goes through and of its
conditions. -/
theorem reads_comprehensionFor :
    Reads depth (comprehensionFor fuel r) fun l => l.flatMap Expr.nodes := by
  have hcondition : Reads depth (do discard (keyword "if"); r .disjunction) Expr.nodes :=
    .pass passes_word.discard fun _ => hr _ _
  exact .pass passes_word.attempt.passes.discard fun _ => .pass passes_word.discard fun _ =>
    .pass passes_reportTargets fun _ => .bind (reads_starTargets hr) fun _ =>
      .pass passes_word.discard fun _ => .read (hr _ _) fun _ =>
        .read (hcondition.many fuel) fun _ => .pure (by simp)

/-- A comprehension behind its first part keeps the nodes of that part, which were made before, and
behind them those of its clauses. -/
theorem takes_comprehension {first : List Expr}
    (hfirst : (first.flatMap Expr.nodes).Sublist before) :
    Takes depth before (comprehension fuel r first) Expr.nodes :=
  .read ((reads_comprehensionFor hr).atLeastOne fuel) fun _ => .pure (by
    simpa [Expr.nodes, flatMap_nodes_flatten] using hfirst)

/-- The items up to a bracket keep their nodes. -/
theorem reads_itemsUpTo {close : String} :
    Reads depth (itemsUpTo fuel r close) fun l => l.flatMap Expr.nodes :=
  .test passes_atSign (.pure (by simp))
    (.bind ((reads_starNamedExpression hr).commaList fuel) fun _ => .pure (.refl _))

/-- The rest of a list keeps the nodes of the first item, which were made before, and behind them
those of the others. -/
theorem takes_moreItems {start : List Token} {first : Expr} {close : String} :
    Takes depth first.nodes (moreItems fuel r start first close) fun l => l.flatMap Expr.nodes := by
  refine .pass passes_get fun _ => .test passes_atSign ?_ (.pure (by simp))
  exact .pass passes_next.discard fun _ => .optional passes_reportComprehension <|
    .read (reads_itemsUpTo hr) fun _ => .optional passes_reportComprehension (.pure (by simp))

/-- What stands in round brackets keeps its nodes, be it a group, a tuple or a generator. -/
theorem reads_parenthesized : Reads depth (parenthesized fuel r) Expr.nodes := by
  refine .pass passes_word.discard fun _ => .test passes_atSign ?_ (.test passes_atKeyword ?_ ?_)
  · exact .pass passes_next.discard fun _ => .pure (by simp [Expr.nodes])
  · exact .bind (reads_yieldExpression hr) fun _ => .pass passes_word.discard fun _ =>
      .pure (by simp [Expr.nodes])
  · refine .pass passes_reportStarred fun _ => .pass passes_reportMapping fun _ =>
      .pass passes_get fun _ => .bind (reads_starNamedExpression hr) fun first => ?_
    have hclose {e : Expr} {before : List Node} (he : e.nodes.Sublist before) :
        Takes depth before (do discard (sign ")"); return e) Expr.nodes :=
      .pass passes_word.discard fun _ => .pure he
    refine .pass passes_atSign fun _ => .pass passes_atFor fun _ =>
      .ite ?_ (.ite takes_halt_bind (.ite ?_ ?_))
    · exact .bind (takes_moreItems hr) fun _ => hclose (by simp [Expr.nodes])
    · exact .bind (takes_comprehension hr (by simp)) fun _ => hclose (.refl _)
    · exact hclose (.refl _)

/-- What stands in square brackets keeps its nodes, be it a list or a comprehension. -/
theorem reads_bracketed : Reads depth (bracketed fuel r) Expr.nodes := by
  refine .pass passes_word.discard fun _ => .test passes_atSign ?_ ?_
  · exact .pass passes_next.discard fun _ => .pure (by simp [Expr.nodes])
  · have hclose {e : Expr} {before : List Node} (he : e.nodes.Sublist before) :
        Takes depth before (do discard (sign "]"); return e) Expr.nodes :=
      .pass passes_word.discard fun _ => .pure he
    refine .pass passes_reportStarred fun _ => .pass passes_get fun _ =>
      .bind (reads_starNamedExpression hr) fun first => .pass passes_atFor fun _ => .ite ?_ ?_
    · exact .bind (takes_comprehension hr (by simp)) fun _ => hclose (.refl _)
    · exact .bind (takes_moreItems hr) fun _ => hclose (by simp [Expr.nodes])

/-- A key with its value keeps the nodes of both, and an unpacked mapping its own. -/
theorem reads_dictItem : Reads depth (dictItem r) fun l => l.flatMap Expr.nodes :=
  .test passes_atSign
    (.pass passes_next.discard fun _ => .bind (hr _ _) fun _ => .pure (by simp))
    (.pass passes_get fun _ => .bind (hr _ _) fun _ => .pass passes_reportKey fun _ =>
      .pass passes_get fun _ => .pass passes_word.discard fun _ => .pass passes_reportValue fun _ =>
        .read (hr _ _) fun _ => .pure (by simp))

/-- The rest of a mapping keeps the nodes of the first item, which were made before, and behind them
those of the others. -/
theorem takes_moreDictItems {first : List Expr}
    (hfirst : (first.flatMap Expr.nodes).Sublist before) :
    Takes depth before (moreDictItems fuel r first) Expr.nodes := by
  have hother : Reads depth (do discard (sign ","); dictItem r) fun l => l.flatMap Expr.nodes :=
    .pass passes_word.discard fun _ => reads_dictItem hr
  exact .read (hother.many fuel) fun _ => .pass passes_word.attempt.passes.discard fun _ =>
    .pure (by simpa [Expr.nodes, flatMap_nodes_flatten] using hfirst)

/-- What stands in curly brackets keeps its nodes, be it a mapping, a set or a comprehension. -/
theorem reads_braced : Reads depth (braced fuel r) Expr.nodes := by
  refine .pass passes_word.discard fun _ => ?_
  have hclose {p : Parse Expr} {before : List Node} (hp : Takes depth before p Expr.nodes) :
      Takes depth before (do let e ← p; discard (sign "\x7d"); return e) Expr.nodes :=
    .bind hp fun _ => .pass passes_word.discard fun _ => .pure (.refl _)
  refine .pass passes_atSign fun _ => .pass passes_atSign fun _ => .ite ?_ (.ite ?_ ?_)
  · exact hclose (.pure (by simp [constant, Expr.nodes]))
  · exact .pass passes_get fun _ => .bind (reads_dictItem hr) fun _ =>
      .pass passes_reportComprehension fun _ => hclose (takes_moreDictItems hr (.refl _))
  · refine .pass passes_atSign fun _ => .pass passes_atNameAndSign fun _ =>
      .pass passes_reportStarred fun _ => .pass passes_get fun _ =>
        .bind (reads_starNamedExpression hr) fun first => ?_
    refine .pass passes_atSign fun _ => .ite ?_ (.pass passes_atFor fun _ => .ite ?_ ?_)
    · refine .pass passes_get fun _ => .pass passes_next.discard fun _ =>
        .pass passes_reportValue fun _ => .read (hr _ _) fun value => .test passes_atFor ?_ ?_
      · exact hclose (takes_comprehension hr (by simp))
      · exact hclose (takes_moreDictItems hr (by simp))
    · exact hclose (takes_comprehension hr (by simp))
    · exact .bind (takes_moreItems hr) fun _ => hclose (.pure (by simp [Expr.nodes]))

/-- **Slots.**  The expression in a slot of a literal is read from tokens of its own. -/
theorem traces_slotExpression {l : Literal} {slot : Format.Slot} {e : Expr}
    (h : slotExpression fuel r l slot = .ok e) :
    Traces e.nodes (slot.words.flatMap (Token.leaves depth)) := by
  unfold slotExpression at h
  dsimp only at h
  split at h
  · next ts htokens =>
    split at h
    · next e' rest he =>
      obtain rfl := Except.ok.inj h
      have hread : Reads depth (starExpressions fuel (r.withPurpose .meaning)) Expr.nodes :=
        reads_starExpressions hr
      obtain ⟨used, rfl, hnodes⟩ := hread ts e' rest he
      rw [Format.Slot.words, htokens, Except.toOption, Option.getD_some, List.flatMap_append]
      exact (hnodes [] (.nil [])).trans_sublist (List.sublist_append_left _ _)
    · exact nomatch h
  · split at h <;> exact nomatch h

/-- **Literals.**  The expressions in a literal stand for leaves one level deeper. -/
theorem traces_literalExpressions (l : Literal) :
    Traces ((literalExpressions fuel r l).flatMap Expr.nodes)
      (l.tokens.flatMap (Token.leaves depth)) := by
  unfold literalExpressions Literal.tokens
  split
  · rcases Format.slots l with _ | slots
    · exact .nil _
    · simp only [Except.toOption, Option.getD_some]
      rcases hparts : slots.mapM (slotExpression fuel r l) with _ | parts
      · exact .nil _
      · rw [List.flatMap_assoc]
        exact .flatMap ((forall₂_of_mapM hparts).imp fun _ _ he => traces_slotExpression hr he)
  · exact .nil _

/-- An unpacked list keeps its nodes in the place of an argument. -/
theorem reads_starredArgument : Reads depth (starredArgument r) Expr.nodes := by
  refine .pass passes_word.discard fun _ => .bind (hr _ _).attempt fun e => ?_
  rcases e with _ | e
  · exact takes_halt
  · exact .pure (by simp [Expr.nodes])

/-- An argument keeps the nodes of its value; its name is no node. -/
theorem reads_argument {comma : List Token} {phase : ArgumentPhase} :
    Reads depth (argument fuel r comma phase) fun a => a.1.nodes := by
  refine .pass passes_get fun _ => .test passes_atSign ?_ (.test passes_atSign ?_
    (.test passes_atNameAndSign ?_ (.ite ?_ ?_)))
  · refine .ite takes_halt_bind ?_
    refine .bind (reads_starredArgument hr) fun _ => .ite ?_ (.pure (.refl _))
    have hmore : Reads depth (do discard (sign ","); starredArgument r) Expr.nodes :=
      .pass passes_word.discard fun _ => reads_starredArgument hr
    exact .pass passes_atSign fun _ => .ite takes_halt_bind <|
      .pass (hmore.many fuel).passes.discard fun _ => takes_halt_bind
  · exact .pass passes_next.discard fun _ => .bind (hr _ _) fun _ => .pure (by simp [Expr.nodes])
  · exact .pass passes_name fun _ => .pass passes_next.discard fun _ => .bind (hr _ _) fun _ =>
      .pass passes_reportComprehension fun _ => .pure (by simp [Expr.nodes])
  · exact .bind (reads_argumentValue hr) fun _ => .pass passes_reportArgumentName fun _ =>
      .test passes_atSign takes_mismatch (.pure (.refl _))
  · exact .pass passes_reportArgument fun _ => takes_mismatch

/-- The arguments behind those that are already read keep the nodes of them all.  The induction is
on the fuel, one step for each argument. -/
theorem takes_argumentsOnto {bound : Nat} {comma : List Token} (done : List Expr)
    {phase : ArgumentPhase} :
    Takes depth (done.reverse.flatMap Expr.nodes) (argumentsOnto bound r comma done phase fuel)
      fun l => l.flatMap Expr.nodes := by
  induction fuel generalizing comma done phase with
  | zero => exact takes_mismatch
  | succ fuel ih =>
    refine .test passes_atSign (.pure (.refl _)) (.pass passes_get fun _ => ?_)
    refine .read (reads_argument hr) fun a => .pass passes_get fun _ =>
      .pass passes_reportGeneratorArgument fun _ => .test passes_atSign ?_ ?_
    · exact .pass passes_next.discard fun _ => by simpa using ih (a.1 :: done)
    · exact .pure (by simp)

/-- The arguments up to the closing bracket keep their nodes. -/
theorem reads_arguments : Reads depth (arguments fuel r) fun l => l.flatMap Expr.nodes :=
  takes_argumentsOnto hr []

omit hr in
/-- Asking whether a positional argument follows keeps no nodes. -/
theorem passes_atPlainArgument : Passes depth atPlainArgument :=
  .pass passes_atAnySign fun _ => .pass passes_atNameAndSign fun _ => .pure (.refl [])

/-- The arguments of a call keep their nodes, also where the only one is a generator. -/
theorem reads_callItems : Reads depth (callItems fuel r) fun l => l.flatMap Expr.nodes := by
  refine .test passes_atPlainArgument ?_ (.pass passes_reportStarred fun _ => reads_arguments hr)
  refine .pass passes_get fun _ => .bind (reads_argumentValue hr) fun first =>
    .pass passes_get fun _ => .test passes_atFor ?_
      (.test passes_atSign ?_ (.test passes_atSign ?_ ?_))
  · refine .bind (takes_comprehension hr (by simp)) fun _ => .pass passes_atSign fun _ => ?_
    exact .ite (.pass passes_isAhead.discard fun _ => .pass passes_blameExpression fun _ =>
      .pure (by simp)) (.pure (by simp))
  · exact .pass passes_reportArgumentName fun _ => takes_mismatch
  · exact .pass passes_next.discard fun _ => by simpa using takes_argumentsOnto hr [first]
  · exact .pure (by simp)

/-- The arguments of a call with their brackets keep their nodes. -/
theorem reads_callArguments : Reads depth (callArguments fuel r) fun l => l.flatMap Expr.nodes :=
  .pass passes_word.discard fun _ => .bind (reads_callItems hr) fun _ =>
    .pass passes_word.discard fun _ => .pure (.refl _)

/-- A bound of a slice keeps its nodes, if it is there at all. -/
theorem reads_bound : Reads depth (bound r) fun l => l.flatMap Expr.nodes :=
  .test passes_atAnySign (.pure (by simp)) (.bind (hr _ _) fun _ => .pure (by simp))

/-- The bounds of a slice keep the nodes of the first one, which were made before, and behind them
their own. -/
theorem takes_sliceBounds {lower : List Expr}
    (hlower : (lower.flatMap Expr.nodes).Sublist before) :
    Takes depth before (sliceBounds r lower) fun l => l.flatMap Expr.nodes := by
  refine .pass passes_word.discard fun _ => .read (reads_bound hr) fun upper =>
    .test passes_atSign ?_ ?_
  · exact .pass passes_next.discard fun _ => .read (reads_bound hr) fun step =>
      .pure (by simpa using hlower)
  · exact .pure (by simpa using hlower)

/-- An index keeps its nodes, be it a slice, an expression or an unpacked list. -/
theorem reads_index : Reads depth (index r) fun l => l.flatMap Expr.nodes := by
  refine .test passes_atSign ?_ (.test passes_atSign ?_ (.test passes_atNameAndSign ?_ ?_))
  · exact .bind (reads_starredArgument hr) fun _ => .pure (by simp)
  · exact takes_sliceBounds hr (by simp)
  · exact .bind (reads_walrus hr) fun _ => .pure (by simp)
  · exact .pass passes_get fun _ => .bind (hr _ _) fun _ =>
      .test passes_atSign (takes_sliceBounds hr (by simp))
        (.pass (passes_reportAssignment _) fun _ =>
          .test passes_atSign takes_mismatch (.pure (by simp)))

/-- One step behind an expression keeps the nodes of the expression, which were made before, and
behind them its own. -/
theorem takes_trailer {e : Expr} : Takes depth e.nodes (trailer fuel r e) Expr.nodes := by
  refine .test passes_atSign ?_ (.test passes_atSign ?_ (.test passes_atSign ?_ takes_mismatch))
  · exact .pass passes_next.discard fun _ => .read reads_nameStop fun _ =>
      .pure (by simp [Expr.nodes])
  · exact .read (reads_callArguments hr) fun _ => .pure (by simp [Expr.nodes])
  · have hitem := reads_index (r := r.inBrackets) hr
    exact .pass passes_next.discard fun _ => .read (hitem.commaList fuel) fun _ =>
      .pass passes_word.discard fun _ => .pure (by simp [Expr.nodes, flatMap_nodes_flatten])

/-- All steps behind an expression keep the nodes of the expression and theirs.  The induction is on
the fuel, one step for each trailer. -/
theorem takes_trailers {bound : Nat} {e : Expr} :
    Takes depth e.nodes (trailers bound r e fuel) Expr.nodes := by
  induction fuel generalizing e with
  | zero => exact .pure (.refl _)
  | succ fuel ih =>
    refine .bind (takes_trailer hr).attempt fun a => ?_
    rcases a with _ | e'
    · exact .pass passes_reportGenerator fun _ => .pure (.refl _)
    · exact ih

/-- A type behind a parameter keeps its nodes, if it is there at all. -/
theorem reads_typeHint {annotated starred : Bool} :
    Reads depth (typeHint r annotated starred) fun l => l.flatMap Expr.nodes := by
  refine .pass passes_atSign fun _ => .ite (.pass passes_next.discard fun _ => .ite ?_ ?_) ?_
  · exact .bind (reads_starExpression hr) fun _ => .pure (by simp)
  · exact .bind (hr _ _) fun _ => .pure (by simp)
  · exact .pure (by simp)

/-- A parameter keeps the nodes of its type and of its default; its name is no node. -/
theorem reads_parameter {annotated : Bool} {s : ParameterState} :
    Reads depth (parameter r annotated s) fun a => a.1.flatMap Expr.nodes := by
  refine .pass passes_get fun _ => .test passes_atSign ?_ (.test passes_atSign ?_ ?_)
  · refine .pass passes_next.discard fun _ => .ite takes_refuseParameter (.ite ?_ ?_)
    · exact .pass passes_get fun _ => .pass passes_reportParameter fun _ => .pure (by simp)
    · exact .pass passes_reportParameter fun _ => takes_mismatch
  · refine .pass passes_next.discard fun _ =>
      .ite (.pass passes_reportParameter fun _ => takes_halt_bind) ?_
    refine .test passes_atSign takes_refuseBareStar (.test passes_atSign (.pure (by simp)) ?_)
    exact .pass passes_name.discard fun _ => .bind (reads_typeHint hr) fun _ =>
      .pass passes_reportDefault fun _ => .pure (.refl _)
  · refine .pass passes_name.discard fun _ => .bind (reads_typeHint hr) fun _ =>
      .test passes_atSign ?_ (.ite ?_ (.pure (.refl _)))
    · exact .pass passes_next.discard fun _ => .read (hr _ _) fun _ => .pure (by simp)
    · exact .pass passes_reportParameter fun _ => takes_mismatch

/-- The parameters behind those that are already read keep the nodes of them all.  The induction is
on the fuel, one step for each parameter. -/
theorem takes_parametersOnto {annotated : Bool} {close : String} (done : List Expr)
    {s : ParameterState} :
    Takes depth (done.flatMap Expr.nodes) (parametersOnto r annotated close done s fuel)
      fun l => l.flatMap Expr.nodes := by
  induction fuel generalizing done s with
  | zero => exact takes_mismatch
  | succ fuel ih =>
    refine .test passes_atSign (.ite takes_refuseBareStar (.pure (.refl _)))
      (.test passes_atSign ?_ ?_)
    · exact .optional takes_refuseBareStar <| .pass passes_next.discard fun _ =>
        .pass passes_name.discard fun _ => .read (reads_typeHint hr) fun _ =>
          .pass passes_reportLast fun _ => .pass passes_word.attempt.passes.discard fun _ =>
            .pure (by simp)
    · refine .pass passes_reportBracketed fun _ => .read (reads_parameter hr) fun a =>
        .test passes_atSign ?_ (.ite takes_refuseBareStar ?_)
      · exact .pass passes_next.discard fun _ => by simpa using ih (done ++ a.1)
      · exact .pure (by simp)

/-- The parameters up to the closing sign keep their nodes. -/
theorem reads_parameters {annotated : Bool} {close : String} :
    Reads depth (parameters fuel r annotated close) fun l => l.flatMap Expr.nodes :=
  takes_parametersOnto hr []

/-- A function without a name keeps the nodes of its parameters and of its body, whichever readers
these have. -/
theorem reads_lambda {inner : Rules}
    (hinner : ∀ purpose rule, Reads depth (inner.reader purpose rule) Expr.nodes) :
    Reads depth (lambda fuel r inner) Expr.nodes :=
  .pass passes_word.discard fun _ => .bind (reads_parameters hr) fun _ =>
    .pass passes_word.discard fun _ => .read (hinner _ _) fun _ => .pure (by simp [Expr.nodes])

end

/-- What the readers of the rules make stands for leaves of the tokens, and so does what is found
in a literal. -/
structure Traced (depth fuel : Nat) (r : Rules) : Prop where
  rules : ∀ purpose rule, Reads depth (r.reader purpose rule) Expr.nodes
  literals : ∀ (t : Token) (l : Literal), t.word = .string l →
    Traces ((literalExpressions fuel r l).flatMap Expr.nodes) (t.leaves depth)

/-- What a text is read for does not matter to the nodes. -/
theorem Traced.withPurpose (h : Traced depth fuel r) (purpose : Purpose) :
    Traced depth fuel (r.withPurpose purpose) :=
  ⟨h.rules, h.literals⟩

section

variable (h : Traced depth fuel r)

include h

/-- A literal is one token, and the expressions in it stand for the leaves of that token. -/
theorem reads_literal :
    Reads depth literal fun entry => (literalExpressions fuel r entry.2).flatMap Expr.nodes := by
  intro ts entry rest hentry
  obtain ⟨⟨t, after⟩, hnext, hentry⟩ := Except.bind_eq_ok_iff.1 hentry
  rcases ts with _ | ⟨t', ts⟩
  · exact nomatch hnext
  obtain ⟨rfl, rfl⟩ := Prod.mk.inj (Except.ok.inj hnext)
  dsimp only at hentry
  cases hw : t'.word with
  | string l =>
    rw [hw] at hentry
    obtain ⟨rfl, rfl⟩ := Prod.mk.inj (Except.ok.inj hentry)
    refine ⟨[t'], rfl, fun seen _ => ?_⟩
    rw [List.flatMap_singleton]
    exact (h.literals t' l hw).trans_sublist (List.sublist_append_right _ _)
  | _ =>
    rw [hw] at hentry
    exact nomatch hentry

/-- Literals one after another keep the nodes of the expressions in them. -/
theorem reads_strings : Reads depth (strings fuel r) Expr.nodes := by
  refine .bind ((reads_literal h).atLeastOne fuel) fun literals => .pass passes_get fun behind => ?_
  split
  · next parts hparts =>
    refine .pure ?_
    have hsame : parts = literals.map fun entry => literalExpressions fuel r entry.2 := by
      rw [← List.forall₂_eq_eq_eq, List.forall₂_map_right_iff]
      exact (forall₂_of_mapM hparts).flip.imp fun _ _ he => eq_literalExpressions he
    rw [Expr.nodes, Expr.nodesOf_eq, hsame, flatMap_nodes_flatten, List.flatMap_map]
  · exact takes_halt

/-- The smallest expressions keep their nodes: a name is one, and a constant has none. -/
theorem reads_atom : Reads depth (atom fuel r) Expr.nodes := by
  refine .pass passes_peek fun w => ?_
  have hconstant : Reads depth (do discard next; return constant) Expr.nodes :=
    .pass passes_next.discard fun _ => .pure (by simp [constant, Expr.nodes])
  split
  · exact .bind reads_nameStart fun _ => .pure (by simp [Expr.nodes])
  · exact hconstant
  · exact takes_blame
  · exact reads_strings h
  · exact hconstant
  · exact hconstant
  · exact hconstant
  · exact hconstant
  · exact reads_parenthesized h.rules
  · exact reads_bracketed h.rules
  · exact reads_braced h.rules
  · exact takes_mismatch

/-- An atom with the steps behind it keeps the nodes of both. -/
theorem reads_primary : Reads depth (primary fuel r) Expr.nodes :=
  .bind (reads_atom h) fun _ => takes_trailers h.rules

/-- A primary keeps its nodes, awaited or not. -/
theorem reads_awaited : Reads depth (awaited fuel r) Expr.nodes :=
  .test passes_atKeyword
    (.pass passes_next.discard fun _ => .bind (reads_primary h) fun _ =>
      .pure (by simp [Expr.nodes]))
    (reads_primary h)

/-- A power keeps the nodes of its base and of its exponent. -/
theorem reads_power : Reads depth (power fuel r) Expr.nodes := by
  have hexponent : Reads depth (do discard (sign "**"); r .factor) Expr.nodes :=
    .pass passes_word.discard fun _ => h.rules _ _
  refine .bind (reads_awaited h) fun base => .read hexponent.attempt fun a => ?_
  rcases a with _ | exponent
  · exact .pure (by simp)
  · exact .pure (by simp [Expr.nodes])

/-- A power keeps its nodes behind signs. -/
theorem reads_factor : Reads depth (factor fuel r) Expr.nodes :=
  .test passes_atAnySign
    (.pass passes_next.discard fun _ => .bind (h.rules _ _) fun _ => .pure (by simp [Expr.nodes]))
    (reads_power h)

omit h in
/-- Operands with operators of several ranks between them. -/
theorem reads_foldl_chain {ranks : List (List String)} {item : Parse Expr}
    (hitem : Reads depth item Expr.nodes) :
    Reads depth (ranks.foldl (fun item signs => chain fuel item (anySign signs)) item)
      Expr.nodes := by
  induction ranks generalizing item with
  | nil => exact hitem
  | cons signs ranks ih => exact ih (reads_chain hitem passes_anySign)

/-- Operands with binary operators between them keep their nodes, for all levels of binding at
once. -/
theorem reads_bitwiseOr : Reads depth (bitwiseOr fuel r) Expr.nodes :=
  reads_foldl_chain (reads_factor h)

omit h in
/-- An operator of comparison keeps no nodes. -/
theorem passes_comparisonOperator : Passes depth comparisonOperator := by
  refine .pass passes_peek fun w => ?_
  split
  · exact .ite passes_next.discard takes_mismatch
  · exact passes_next.discard
  · exact .pass passes_next.discard fun _ => passes_word.discard
  · exact .pass passes_next.discard fun _ => passes_word.attempt.passes.discard
  · exact takes_mismatch

/-- Operands with operators of comparison between them keep their nodes. -/
theorem reads_comparison : Reads depth (comparison fuel r) Expr.nodes :=
  reads_chain (reads_bitwiseOr h) passes_comparisonOperator

/-- A comparison keeps its nodes behind `not`. -/
theorem reads_inversion : Reads depth (inversion fuel r) Expr.nodes :=
  .test passes_atKeyword
    (.pass passes_next.discard fun _ => .bind (h.rules _ _) fun _ => .pure (by simp [Expr.nodes]))
    (reads_comparison h)

/-- Conditions with `and` and `or` between them keep their nodes. -/
theorem reads_disjunction : Reads depth (disjunction fuel r) Expr.nodes :=
  reads_chain (reads_chain (reads_inversion h) passes_word.discard) passes_word.discard

/-- An expression keeps its nodes, whichever readers its parts have: a condition, a choice by one,
or a function without a name. -/
theorem reads_expressionOf {inner : Rules} (hinner : Traced depth fuel inner) :
    Reads depth (expressionOf fuel r inner) Expr.nodes := by
  refine .test passes_atKeyword (reads_lambda h.rules hinner.rules) ?_
  refine .pass passes_get fun start => ?_
  refine .bind (reads_disjunction hinner) fun value => .pass passes_get fun behind =>
    .pass passes_reportPair fun _ => .pass passes_reportChoice fun _ =>
      .pass passes_reportFormer fun _ => ?_
  refine .read (p := attempt _)
    (@Reads.attempt _ _ _ (fun l => l.flatMap Expr.nodes) ?_) fun a => ?_
  · exact .pass passes_word.discard fun _ => .bind (hinner.rules _ _) fun _ =>
      .pass passes_word.discard fun _ => .read (hinner.rules _ _) fun _ => .pure (by simp)
  · rcases a with _ | parts
    · exact .pure (by simp)
    · exact .pure (by simp [Expr.nodes])

/-- An expression keeps its nodes. -/
theorem reads_expression : Reads depth (expression fuel r) Expr.nodes := reads_expressionOf h h

/-- An expression keeps its nodes if its parts are read for their meaning alone. -/
theorem reads_rereadExpression : Reads depth (rereadExpression fuel r) Expr.nodes :=
  reads_expressionOf h (h.withPurpose .meaning)

/-- Every rule that other rules contain keeps its nodes, if the rules that it contains do. -/
theorem reads_layer (rule : Rule) : Reads depth (layer fuel r rule) Expr.nodes := by
  cases rule with
  | expression => exact reads_expression h
  | rereadExpression => exact reads_rereadExpression h
  | disjunction => exact reads_disjunction h
  | inversion => exact reads_inversion h
  | bitwiseOr => exact reads_bitwiseOr h
  | factor => exact reads_factor h
  | primary => exact reads_primary h

end

/-- **Literals.**  The slots of a literal are read by the same rules, one level deeper. -/
theorem traced_of_inner (hinner : ∀ purpose rule, Reads depth (r.reader purpose rule) Expr.nodes)
    (hr : ∀ purpose rule, Reads (depth + 1) (r.reader purpose rule) Expr.nodes) :
    Traced (depth + 1) fuel r := by
  refine ⟨hr, fun t l ht => ?_⟩
  rw [Token.leaves_of_string ht]
  exact traces_literalExpressions hinner l

/-- **Expressions.**  The nodes that the reader of a rule makes of some tokens, stand for leaves of
these tokens, by induction on the levels of nesting, which bound the literals in literals, too. -/
theorem reads_readers {fuel depth : Nat} (h : fuel ≤ depth) (purpose : Purpose) (rule : Rule) :
    Reads depth (readers fuel purpose rule) Expr.nodes := by
  induction fuel generalizing depth purpose rule with
  | zero => exact takes_mismatch
  | succ fuel ih =>
    obtain ⟨depth, rfl⟩ := Nat.exists_eq_add_one_of_ne_zero (Nat.ne_zero_of_lt h)
    exact reads_layer (traced_of_inner (r := ⟨readers fuel, purpose⟩)
      (ih (Nat.le_of_succ_le_succ h)) (ih (Nat.le_of_succ_le h))) rule

/-- The rules that the statements of a module contain keep their nodes, whatever a text is read
for. -/
theorem traced_rules (fuel : Nat) (purpose : Purpose) :
    Traced (fuel + 1) fuel (rules fuel purpose) :=
  traced_of_inner (reads_readers le_rfl) (reads_readers (Nat.le_succ fuel))

end Grammar
end Python
end DeclSearch
