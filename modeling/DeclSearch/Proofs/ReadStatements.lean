/-
# The nodes of statements

The nodes of the statements of a source text stand for leaves of its tokens, in order
(`traces_of_parseModule`).

Statements hold positions of their own besides those in their expressions: the keyword of a class
or a function and the start of an import.  A function's position is the one of the next token,
whatever that is; it is a position of the text because the function is only read when that token is
its keyword (`takesAt_word`).
-/

import DeclSearch.Proofs.ReadPatterns
import DeclSearch.Python.Module

namespace DeclSearch
namespace Python
namespace Grammar

open Parse

variable {depth fuel : Nat} {before : List Node} {r : Rules} {body : Body}

/-- Nodes of statements that come line by line. -/
theorem flatMap_nodes_lines (lines : List (List Stmt)) :
    lines.flatten.flatMap Stmt.nodes = lines.flatMap fun line => line.flatMap Stmt.nodes := by
  rw [List.flatten_eq_flatMap, List.flatMap_assoc]
  rfl

/-- A path of names is one node, which stands where its first name starts. -/
theorem reads_modulePath : Reads depth (modulePath fuel) fun i => [.imported i] := by
  have hfirst : Reads depth name fun m => [.opening m.start] := reads_name fun _ _ _ _ => rfl
  have hother : Passes depth (do discard (sign "."); name) :=
    .pass passes_word.discard fun _ => passes_name
  exact .bind hfirst fun _ => .pass (hother.many fuel).passes fun _ =>
    .pure_of_traces fun _ hseen => hseen.imp (.cons (fun _ h => h) .nil)

/-- The name behind `as` is no node. -/
theorem passes_newName : Passes depth newName :=
  .test passes_atKeyword (.pass passes_next.discard fun _ => passes_name.discard)
    (.pure (.refl []))

/-- An import keeps a node for each of its paths. -/
theorem reads_importNames : Reads depth (importNames fuel) Stmt.nodes := by
  have hitem : Reads depth (do
      let path ← modulePath fuel
      newName
      return path) fun i => [.imported i] :=
    .bind reads_modulePath fun _ => .pass passes_newName fun _ => .pure (.refl _)
  exact .pass passes_word.discard fun _ => .bind (hitem.commaSeparated fuel) fun _ =>
    .pure (by simp [Stmt.nodes, List.map_eq_flatMap])

/-- A name that is imported from a module is one node, whatever it is called from then on. -/
theorem reads_importedName : Reads depth importedName fun i => [.imported i] := by
  have hname : Reads depth name fun m => [.imported ⟨[m.id], m.start⟩] :=
    reads_name fun _ _ _ _ => rfl
  exact .bind hname fun _ => .pass passes_newName fun _ => .pure (.refl _)

/-- The names that are imported from a module are a node each, and so is a star in their place. -/
theorem reads_importedNames :
    Reads depth (importedNames fuel) fun l => l.flatMap fun i => [.imported i] := by
  refine .testSign (fun t ts hw => ?_) (.test passes_atSign ?_ ?_)
  · have hstar : TakesAt depth [] (t :: ts) next fun star => [.imported ⟨["*"], star.start⟩] :=
      takesAt_next (by rw [hw]; rfl) rfl
    exact .bind hstar fun _ => .pure (by simp)
  · exact .pass passes_next.discard fun _ => .bind (reads_importedName.commaList fuel) fun _ =>
      .pass passes_word.discard fun _ => .pure (.refl _)
  · exact reads_importedName.commaSeparated fuel

/-- An import from a module keeps a node at its own start, for the module, and one for each name. -/
theorem reads_importFrom : Reads depth (importFrom fuel) Stmt.nodes := by
  have hstart : Reads depth (keyword "from") fun t => [.opening t.start] :=
    reads_keyword fun _ => rfl
  refine .bind hstart fun start => .pass (passes_anySign.many fuel).passes fun dots => ?_
  have hrest (origin : List String) : Takes depth [.opening start.start] (do
      discard (keyword "import")
      return Stmt.importFrom ⟨origin, start.start⟩ (← importedNames fuel)) Stmt.nodes := by
    refine .pass passes_word.discard fun _ => .read reads_importedNames fun names =>
      .pure_of_traces fun _ hseen => ?_
    rw [Stmt.nodes, List.map_eq_flatMap]
    exact hseen.imp (.cons (fun _ h => h) (List.forall₂_same.2 fun _ _ _ h => h))
  refine .pass passes_atKeyword fun _ => .ite (hrest []) ?_
  exact .pass reads_modulePath.passes fun path => hrest path.names

section

variable (hr : ∀ purpose rule, Reads depth (r.reader purpose rule) Expr.nodes)

include hr

/-- The value behind an annotation keeps its nodes, if it is there at all. -/
theorem reads_annotatedValue :
    Reads depth (annotatedValue fuel r) fun e => e.toList.flatMap Expr.nodes :=
  .test passes_atSign
    (.pass passes_next.discard fun _ => .bind (reads_assignedValue hr) fun _ => .pure (by simp))
    (.pure (by simp))

/-- An annotated name keeps the nodes of the target, which were made before, and behind them those
of the type and of the value. -/
theorem takes_annotatedRest {target : Expr} :
    Takes depth target.nodes (annotatedRest fuel r target) Stmt.nodes :=
  .pass passes_word.discard fun _ => .read (hr _ _) fun _ =>
    .read (reads_annotatedValue hr) fun _ => .pure (by simp [Stmt.nodes])

/-- An assignment keeps the nodes of the targets that are already read, and behind them those of the
others and of the value.  The induction is on the steps, one for each target. -/
theorem takes_assignedOnto {steps : Nat} (targets : List Expr) :
    Takes depth (targets.reverse.flatMap Expr.nodes) (assignedOnto fuel r targets steps)
      Stmt.nodes := by
  induction steps generalizing targets with
  | zero => exact takes_mismatch
  | succ steps ih =>
    refine .pass passes_word.discard fun _ => .test passes_atKeyword ?_ ?_
    · exact .read (reads_yieldExpression hr) fun _ => .test passes_atSign takes_halt_bind
        (.pure (by simp [Stmt.nodes]))
    · refine .read (reads_starExpressions hr) fun e => .test passes_atSign
        (.ite ?_ takes_mismatch) (.pure (by simp [Stmt.nodes]))
      simpa using ih (e :: targets)

omit hr in
/-- A report on a statement keeps no nodes. -/
theorem passes_reportStatement {start : List Token} :
    Passes depth (reportStatement fuel r start) := by
  have hrefuse {p : Parse Unit} : Passes depth (do
      if (← tryOn start p).isSome then blame start) :=
    .pass passes_tryOn fun _ => .ite takes_blame (.pure (.refl []))
  exact .ite (.pass hrefuse fun _ => .pass hrefuse fun _ => hrefuse) (.pure (.refl []))

/-- An expression, or an assignment that starts with one, keeps its nodes. -/
theorem reads_expressionStatement : Reads depth (expressionStatement fuel r) Stmt.nodes := by
  refine .test passes_atNameAndSign ?_ ?_
  · exact .bind reads_nameStart fun _ => takes_annotatedRest hr
  · refine .pass passes_get fun start => .bind (reads_starExpressions hr) fun e =>
      .pass passes_atSign fun _ => .ite (takes_annotatedRest hr) ?_
    refine .pass passes_atSign fun _ => .ite (by simpa using takes_assignedOnto hr [e]) ?_
    refine .pass passes_atAnySign fun _ => .ite ?_ ?_
    · exact .pass passes_next.discard fun _ => .read (reads_assignedValue hr) fun _ =>
        .pure (by simp [Stmt.nodes])
    · exact .pass passes_reportStatement fun _ => .pure (by simp [Stmt.nodes])

/-- What is deleted keeps its nodes. -/
theorem reads_deletion : Reads depth (deletion fuel r) Stmt.nodes := by
  have hitem : Reads depth (do
      let e ← r .bitwiseOr
      if e.isDeletable then return e else mismatch) Expr.nodes :=
    .bind (hr _ _) fun _ => .ite (.pure (.refl _)) takes_mismatch
  have hitems : Reads depth (do return .plain (← commaList fuel (do
      let e ← r .bitwiseOr
      if e.isDeletable then return e else mismatch)).1) Stmt.nodes :=
    .bind (hitem.commaList fuel) fun _ => .pure (by simp [Stmt.nodes])
  exact .ite (.pass passes_isAhead.discard fun _ => hitems) hitems

/-- What is raised keeps its nodes, and so does its cause. -/
theorem reads_raising : Reads depth (raising r) Stmt.nodes := by
  refine .bind (hr _ _).attempt fun a => ?_
  rcases a with _ | e
  · exact .pure (by simp [Stmt.nodes])
  · exact .test passes_atKeyword
      (.pass passes_next.discard fun _ => .read (hr _ _) fun _ => .pure (by simp [Stmt.nodes]))
      (.pure (by simp [Stmt.nodes]))

/-- A condition that is asserted keeps its nodes, and so does its message. -/
theorem reads_assertion : Reads depth (assertion r) Stmt.nodes :=
  .bind (hr _ _) fun _ => .test passes_atSign
    (.pass passes_next.discard fun _ => .read (hr _ _) fun _ => .pure (by simp [Stmt.nodes]))
    (.pure (by simp [Stmt.nodes]))

/-- Every statement that fits on a line keeps its nodes. -/
theorem reads_simpleStatement : Reads depth (simpleStatement fuel r) Stmt.nodes := by
  refine .pass passes_peek fun _ => ?_
  have hnothing : Reads depth (do discard next; return Stmt.plain []) Stmt.nodes :=
    .pass passes_next.discard fun _ => .pure (by simp [Stmt.nodes])
  have hscope : Reads depth (do
      discard next
      discard (commaSeparated fuel name)
      return Stmt.plain []) Stmt.nodes :=
    .pass passes_next.discard fun _ => .pass (passes_name.commaSeparated fuel).passes.discard
      fun _ => .pure (by simp [Stmt.nodes])
  split
  · exact .pass passes_next.discard fun _ => .bind (reads_starExpressions hr).attempt fun _ =>
      .pure (by simp [Stmt.nodes])
  · exact reads_importNames
  · exact reads_importFrom
  · exact .pass passes_next.discard fun _ => reads_raising hr
  · exact hnothing
  · exact hnothing
  · exact hnothing
  · exact .pass passes_next.discard fun _ => reads_deletion hr
  · exact .bind (reads_yieldExpression hr) fun _ => .pure (by simp [Stmt.nodes])
  · exact .pass passes_next.discard fun _ => reads_assertion hr
  · exact hscope
  · exact hscope
  · exact reads_expressionStatement hr

/-- A line keeps the nodes of the statements that are already read, and behind them those of the
others.  The induction is on the steps, one for each statement. -/
theorem takes_simpleLineOnto {steps : Nat} (done : List Stmt) :
    Takes depth (done.reverse.flatMap Stmt.nodes) (simpleLineOnto fuel r done steps)
      fun l => l.flatMap Stmt.nodes := by
  induction steps generalizing done with
  | zero => exact takes_mismatch
  | succ steps ih =>
    refine .read (reads_simpleStatement hr) fun s => .test passes_atSign
      (.pass passes_next.discard fun _ => .pass passes_peek fun _ => .ite ?_ ?_) ?_
    · exact .pass passes_next.discard fun _ => .pure (by simp)
    · simpa using ih (s :: done)
    · exact .pass passes_word.discard fun _ => .pure (by simp)

/-- The statements of a line keep their nodes. -/
theorem reads_simpleLine : Reads depth (simpleLine fuel r) fun l => l.flatMap Stmt.nodes :=
  takes_simpleLineOnto hr []

/-- Decorators keep their nodes. -/
theorem reads_decorators : Reads depth (decorators fuel r) fun l => l.flatMap Expr.nodes := by
  have hone : Reads depth (do
      discard (sign "@")
      let e ← namedExpression r
      discard (word .newline)
      return e) Expr.nodes :=
    .pass passes_word.discard fun _ => .bind (reads_namedExpression hr) fun _ =>
      .pass passes_word.discard fun _ => .pure (.refl _)
  exact hone.many fuel

variable (hbody : Reads depth body fun l => l.flatMap Stmt.nodes)

include hbody

omit hr in
/-- A body behind a colon keeps its nodes. -/
theorem reads_bodyBehindColon : Reads depth (bodyBehindColon body) fun l => l.flatMap Stmt.nodes :=
  .pass passes_word.discard fun _ => hbody

omit hr in
/-- A body behind `else` keeps its nodes, if it is there at all. -/
theorem reads_elseBody : Reads depth (elseBody body) fun l => l.flatMap Stmt.nodes :=
  .test passes_atKeyword (.pass passes_next.discard fun _ => reads_bodyBehindColon hbody)
    (.pure (by simp))

/-- A class keeps the nodes of its decorators, which were made before, and behind them its start,
its name and the nodes of its arguments and its body. -/
theorem takes_classDef {decorators : List Expr} :
    Takes depth (decorators.flatMap Expr.nodes) (classDef fuel r body decorators) Stmt.nodes := by
  have hstart : Reads depth (keyword "class") fun t => [.opening t.start] :=
    reads_keyword fun _ => rfl
  refine .read hstart fun start => .read reads_definedName fun m => ?_
  have hrest {before : List Node} {arguments : List Expr} (hbefore : before =
      decorators.flatMap Expr.nodes ++ [.opening start.start] ++ [.defined m.id] ++
        arguments.flatMap Expr.nodes) : Takes depth before (do
      return Stmt.classDef start.start m.id decorators arguments (← bodyBehindColon body))
      Stmt.nodes :=
    .read (reads_bodyBehindColon hbody) fun _ => .pure (by simp [Stmt.nodes, hbefore])
  refine .test passes_atSign ?_ (hrest (by simp))
  exact .pass passes_next.discard fun _ => .read (reads_arguments (r := r.inBrackets) hr) fun _ =>
    .pass passes_word.discard fun _ => hrest rfl

/-- A function whose start has been kept at its first keyword. -/
theorem takesAt_functionDef {ts : List Token} {start : Position} {decorators : List Expr}
    (hdef : TakesAt depth before ts (discard (keyword "def")) fun _ =>
      decorators.flatMap Expr.nodes ++ [.opening start]) :
    TakesAt depth before ts (functionDef fuel r body start decorators) Stmt.nodes := by
  have hparts : Reads depth (parameters fuel r.inBrackets true ")") fun l => l.flatMap Expr.nodes :=
    reads_parameters (r := r.inBrackets) hr
  refine hdef.bind fun _ => .read reads_definedName fun m => .pass passes_word.discard fun _ =>
    .read hparts fun parts => .pass passes_word.discard fun _ => ?_
  have hrest {before : List Node} {result : List Expr} (hbefore : before =
      decorators.flatMap Expr.nodes ++ [.opening start] ++ [.defined m.id] ++
        parts.flatMap Expr.nodes ++ result.flatMap Expr.nodes) : Takes depth before (do
      return Stmt.functionDef start m.id decorators (parts ++ result) (← bodyBehindColon body))
      Stmt.nodes :=
    .read (reads_bodyBehindColon hbody) fun _ => .pure (by simp [Stmt.nodes, hbefore])
  refine .test passes_atSign ?_ (hrest (by simp))
  exact .pass passes_next.discard fun _ => .read (hr _ _) fun _ => hrest (by simp)

/-- A class or a function keeps the nodes of its decorators, which were made before, and behind them
its own. -/
theorem takes_definition {decorators : List Expr} :
    Takes depth (decorators.flatMap Expr.nodes) (definition fuel r body decorators)
      Stmt.nodes := by
  refine .peeked fun t ts => ?_
  split
  · exact takes_classDef hr hbody (t :: ts)
  · next hw =>
    have hstart : TakesAt depth (decorators.flatMap Expr.nodes) (t :: ts) next fun t =>
        decorators.flatMap Expr.nodes ++ [.opening t.start] :=
      takesAt_next (by rw [hw]; rfl) rfl
    exact hstart.bind fun _ ts => takesAt_functionDef hr hbody (passes_word.discard.behind _ ts)
  · refine .get ?_
    exact takesAt_functionDef hr hbody (takesAt_word rfl)

/-- A condition keeps its nodes and those of its bodies, through all that follow with `elif`.  The
induction is on the steps, one for each of these. -/
theorem reads_ifElse {steps : Nat} : Reads depth (ifElse r body steps) Stmt.nodes := by
  induction steps with
  | zero => exact takes_mismatch
  | succ steps ih =>
    refine .pass passes_next.discard fun _ => .bind (reads_namedExpression hr) fun _ =>
      .read (reads_bodyBehindColon hbody) fun _ => .test passes_atKeyword ?_ ?_
    · exact .read ih fun _ => .pure (by simp [Stmt.nodes])
    · exact .read (reads_elseBody hbody) fun _ => .pure (by simp [Stmt.nodes])

omit hr hbody in
/-- A report on what a body is entered with keeps no nodes. -/
theorem passes_reportRenamed : Passes depth (reportRenamed r) :=
  .ite passes_isAhead.discard (.pure (.refl []))

omit hbody in
/-- What a body is entered with keeps its nodes, and so does what it is assigned to. -/
theorem reads_withItem : Reads depth (withItem r) fun l => l.flatMap Expr.nodes := by
  have hrenamed : Reads depth (do
      discard (keyword "as")
      let target ← starTarget r
      if ← atAnySign [",", ")", ":"] then return target else mismatch) Expr.nodes :=
    .pass passes_word.discard fun _ => .bind (reads_starTarget hr) fun _ =>
      .test passes_atAnySign (.pure (.refl _)) takes_mismatch
  exact .bind (hr _ _) fun _ => .read hrenamed.attempt fun _ =>
    .pass passes_reportRenamed fun _ => .pure (by simp)

omit hbody in
/-- What a body is entered with keeps its nodes in brackets, too. -/
theorem reads_withBracketed :
    Reads depth (withBracketed fuel r) fun l => l.flatMap Expr.nodes :=
  .pass passes_word.discard fun _ =>
    .bind ((reads_withItem (r := r.inBrackets) hr).commaList fuel) fun _ =>
      .pass passes_word.discard fun _ => .test passes_atSign
        (.pure (by simp [flatMap_nodes_flatten])) takes_mismatch

/-- A body with what it is entered with keeps the nodes of both. -/
theorem reads_withBlock : Reads depth (withBlock fuel r body) Stmt.nodes := by
  have hrest {before : List Node} {parts : List Expr}
      (hbefore : before = parts.flatMap Expr.nodes) : Takes depth before (do
      return Stmt.withItems parts (← bodyBehindColon body)) Stmt.nodes :=
    .read (reads_bodyBehindColon hbody) fun _ => .pure (by simp [Stmt.nodes, hbefore])
  refine .pass passes_word.discard fun _ => .bind (reads_withBracketed hr).attempt fun a => ?_
  rcases a with _ | parts
  · exact .bind ((reads_withItem hr).commaSeparated fuel) fun _ =>
      hrest (by simp [flatMap_nodes_flatten])
  · exact hrest (by simp)

/-- A loop keeps the nodes of its targets, of what it goes through and of its bodies. -/
theorem reads_forLoop : Reads depth (forLoop fuel r body) Stmt.nodes :=
  .pass passes_word.discard fun _ => .pass passes_reportTargets fun _ =>
    .bind (reads_starTargets hr) fun _ => .pass passes_word.discard fun _ =>
      .read (reads_starExpressions hr) fun _ => .read (reads_bodyBehindColon hbody) fun _ =>
        .read (reads_elseBody hbody) fun _ => .pure (by simp [Stmt.nodes])

/-- A loop keeps the nodes of its condition and of its bodies. -/
theorem reads_whileLoop : Reads depth (whileLoop r body) Stmt.nodes :=
  .pass passes_word.discard fun _ => .bind (reads_namedExpression hr) fun _ =>
    .read (reads_bodyBehindColon hbody) fun _ => .read (reads_elseBody hbody) fun _ =>
      .pure (by simp [Stmt.nodes])

omit hr hbody in
/-- A report on several exceptions keeps no nodes. -/
theorem passes_reportExceptions : Passes depth (reportExceptions fuel r) :=
  .ite passes_isAhead.discard (.pure (.refl []))

/-- A handler for some failures keeps the nodes of these and of its body; the name for a failure is
no node. -/
theorem reads_namedHandler : Reads depth (namedHandler fuel r body) Clause.nodes :=
  .bind (hr _ _) fun _ => .pass passes_reportExceptions fun _ => .pass passes_newName fun _ =>
    .read (reads_bodyBehindColon hbody) fun _ => .pure (by simp [Clause.nodes])

/-- A handler keeps its nodes, for some failures or for all. -/
theorem reads_handler : Reads depth (handler fuel r body) Clause.nodes :=
  .pass passes_word.discard fun _ => .test passes_atSign
    (.bind (reads_bodyBehindColon hbody) fun _ => .pure (by simp [Clause.nodes]))
    (reads_namedHandler hr hbody)

/-- A handler of groups keeps its nodes. -/
theorem reads_groupHandler : Reads depth (groupHandler fuel r body) Clause.nodes :=
  .pass passes_word.discard fun _ => .pass passes_word.discard fun _ =>
    reads_namedHandler hr hbody

/-- A handler of either kind keeps its nodes. -/
theorem reads_handlerOf {group : Bool} : Reads depth (handlerOf fuel r body group) Clause.nodes :=
  .ite (reads_groupHandler hr hbody) (reads_handler hr hbody)

omit hr in
/-- A last body keeps its nodes, if it is there at all. -/
theorem reads_finalBody : Reads depth (finalBody body) fun l => l.flatMap Stmt.nodes :=
  .pass passes_word.discard fun _ => reads_bodyBehindColon hbody

/-- A guarded body keeps its nodes and those of its handlers and its other bodies, as they are
written. -/
theorem reads_tryExcept : Reads depth (tryExcept fuel r body) Stmt.nodes := by
  refine .pass passes_word.discard fun _ => .bind (reads_bodyBehindColon hbody) fun first =>
    .test passes_atKeyword ?_ ?_
  · exact .read (reads_finalBody hbody) fun _ => .pure (by simp [Stmt.nodes])
  · refine .pass passes_peekSecond fun w =>
      .read ((reads_handlerOf hr hbody).atLeastOne fuel) fun handlers =>
        .optional passes_isAhead.discard <| .read (reads_elseBody hbody)
          fun orElse => .test passes_atKeyword ?_ ?_
    · exact .read (reads_finalBody hbody) fun _ => .pure (by simp [Stmt.nodes])
    · exact .pure (by simp [Stmt.nodes])

omit hbody in
/-- What is matched keeps its nodes. -/
theorem reads_subject : Reads depth (subject fuel r) Expr.nodes := by
  refine .bind ((reads_starNamedExpression hr).commaList fuel) fun l => ?_
  split
  · exact takes_mismatch
  · exact .pure (by simp)
  · exact .pure (by simp [Expr.nodes])

end

section

variable (h : Traced depth fuel r) (hbody : Reads depth body fun l => l.flatMap Stmt.nodes)

include h hbody

/-- A case keeps the nodes of its pattern, of its condition and of its body. -/
theorem reads_caseClause : Reads depth (caseClause fuel r body) Clause.nodes := by
  refine .pass passes_word.discard fun _ => .bind (reads_casePattern h) fun parts => ?_
  have hrest {before : List Node} {guard : List Expr} (hbefore : before =
      parts.flatMap Expr.nodes ++ guard.flatMap Expr.nodes) : Takes depth before (do
      return Clause.mk (parts ++ guard) (← bodyBehindColon body)) Clause.nodes :=
    .read (reads_bodyBehindColon hbody) fun _ => .pure (by simp [Clause.nodes, hbefore])
  refine .test passes_atKeyword ?_ (hrest (by simp))
  exact .pass passes_next.discard fun _ => .read (reads_namedExpression h.rules) fun _ =>
    hrest (by simp)

/-- What is matched keeps its nodes, and so do the cases. -/
theorem reads_matchCases : Reads depth (matchCases fuel r body) Stmt.nodes :=
  .pass passes_word.discard fun _ => .bind (reads_subject h.rules) fun _ =>
    .pass passes_word.discard fun _ => .pass passes_word.discard fun _ =>
      .pass passes_word.discard fun _ => .read ((reads_caseClause h hbody).atLeastOne fuel)
        fun _ => .pass passes_word.discard fun _ => .pure (by simp [Stmt.nodes])

omit h in
/-- A statement behind `async` keeps its nodes; a function starts at that word. -/
theorem reads_asyncStatement (hr : ∀ purpose rule, Reads depth (r.reader purpose rule) Expr.nodes) :
    Reads depth (asyncStatement fuel r body) Stmt.nodes := by
  refine .pass passes_peekSecond fun _ => ?_
  split
  · exact takes_definition hr hbody
  · exact .pass passes_next.discard fun _ => reads_withBlock hr hbody
  · exact .pass passes_next.discard fun _ => reads_forLoop hr hbody
  · exact takes_mismatch

/-- The statements of a line or of a compound statement keep their nodes. -/
theorem reads_statements :
    Reads depth (statements fuel r body) fun l => l.flatMap Stmt.nodes := by
  have hr := h.rules
  have hone {p : Parse Stmt} {before : List Node} (hp : Takes depth before p Stmt.nodes) :
      Takes depth before (do return [← p]) fun l => l.flatMap Stmt.nodes :=
    .bind hp fun _ => .pure (by simp)
  refine .pass passes_peek fun _ => ?_
  split
  · exact .bind (reads_decorators hr) fun _ => hone (takes_definition hr hbody)
  · exact hone (takes_definition hr hbody)
  · exact hone (takes_definition hr hbody)
  · exact hone (reads_asyncStatement hbody hr)
  · exact hone (reads_ifElse hr hbody)
  · exact hone (reads_withBlock hr hbody)
  · exact hone (reads_forLoop hr hbody)
  · exact hone (reads_whileLoop hr hbody)
  · exact hone (reads_tryExcept hr hbody)
  · refine .bind (reads_matchCases h hbody).attempt fun a => ?_
    rcases a with _ | s
    · exact reads_simpleLine hr
    · exact .pure (by simp)
  · exact reads_simpleLine hr

/-- A block keeps its nodes, if the bodies that are nested in it do. -/
theorem reads_blockLayer : Reads depth (blockLayer fuel r body) fun l => l.flatMap Stmt.nodes := by
  refine .pass passes_peek fun _ => .ite ?_ (reads_simpleLine h.rules)
  exact .pass passes_next.discard fun _ => .pass passes_word.discard fun _ =>
    .bind ((reads_statements h hbody).atLeastOne fuel) fun lines =>
      .pass passes_word.discard fun _ => .pure (by simp [flatMap_nodes_lines])

omit hbody in
/-- A block keeps its nodes.  The induction is on the levels of nesting. -/
theorem reads_block {levels : Nat} :
    Reads depth (block fuel r levels) fun l => l.flatMap Stmt.nodes := by
  induction levels with
  | zero => exact takes_mismatch
  | succ levels ih => exact reads_blockLayer h ih

end

/-- The statements of a module keep their nodes, whatever the text is read for. -/
theorem reads_module (purpose : Purpose) :
    Reads (fuel + 1) (module fuel purpose) fun l => l.flatMap Stmt.nodes := by
  have h := traced_rules fuel purpose
  exact .bind ((reads_statements h (reads_block h)).many fuel) fun _ =>
    .pass passes_word.discard fun _ => .pure (by simp [flatMap_nodes_lines])

end Grammar

/-- **Modules.** The nodes of the statements of a source text stand for leaves of its tokens, in the
order of the text. Some tokens stand for no node, and those behind the last statement for none at
all. -/
theorem traces_of_parseModule {source : List Char} {body : List Stmt}
    (h : parseModule source = .ok body) :
    ∃ tokens depth, Lexer.tokens source = .ok tokens ∧
      Traces (Stmt.nodesOf body) (tokens.flatMap (Token.leaves depth)) := by
  unfold parseModule at h
  dsimp only at h
  split at h
  · next tokens htokens =>
    split at h
    · next body' rest hbody =>
      obtain rfl := Except.ok.inj h
      obtain ⟨used, rfl, hnodes⟩ := Grammar.reads_module .meaning tokens body' rest hbody
      refine ⟨_, 2 * source.length + 10 + 1, htokens, ?_⟩
      rw [Stmt.nodesOf_eq, List.flatMap_append]
      exact (hnodes [] (.nil [])).trans_sublist (List.sublist_append_left _ _)
    · exact nomatch h
  · split at h <;> exact nomatch h

/-- The statements of a source file are those of its text. -/
theorem exists_source_of_statements? {content : Text.Bytes} {body : List Stmt}
    (h : statements? content = some body) :
    ∃ source, Encoding.source? content = some source ∧ parseModule source = .ok body := by
  unfold statements? parse at h
  split at h
  · next source hsource =>
    rcases hbody : parseModule source with _ | body'
    · rw [hbody] at h
      exact nomatch h
    · rw [hbody] at h
      exact ⟨source, hsource, hbody.trans (congrArg Except.ok (Option.some.inj h))⟩
  · exact nomatch h

variable {n : Nat}

/-- Whether the positions in a statement are on the first `n` lines. -/
def Stmt.Within (n : Nat) (s : Stmt) : Prop := ∀ p ∈ s.positions, p.Within n

/-- The positions of some statements are within a text if those of every statement are. -/
theorem Stmt.forall_mem_positionsOf {l : List Stmt} :
    (∀ p ∈ Stmt.positionsOf l, p.Within n) ↔ ∀ s ∈ l, s.Within n := by
  simp only [mem_positionsOf, Within]
  constructor
  · exact fun h s hs p hp => h p ⟨s, hs, hp⟩
  · rintro h p ⟨s, hs, hp⟩
    exact h s hs p hp

/-- **The positions of a module are positions of its text.**  If a source text is on the first
`n` lines, so is every position in its statements. -/
theorem within_of_parseModule {source : List Char} {body : List Stmt}
    (h : parseModule source = .ok body) (hsource : Cursor.Within n ⟨⟨1, 0⟩, source⟩) :
    ∀ s ∈ body, s.Within n := by
  obtain ⟨tokens, depth, htokens, htraces⟩ := traces_of_parseModule h
  obtain ⟨stop, hfound⟩ := Lexer.found_tokensAt htokens
  refine Stmt.forall_mem_positionsOf.1 fun p hp => ?_
  obtain ⟨m, hm, hposition⟩ := List.mem_filterMap.1 ((Stmt.mem_positionsOf_iff body).1 hp)
  obtain ⟨t, ht, hof⟩ := htraces.exists_of_mem hm
  obtain ⟨s, hs, hts⟩ := List.mem_flatMap.1 ht
  have hwithin := (Lexer.within_tokensAt htokens hsource s hs).leaves depth t hts
  obtain ⟨-, hword⟩ := (hfound.sound s (List.mem_reverse.2 hs)).leaves depth t hts
  obtain rfl | rfl := Node.position_eq hof hposition
  · exact hwithin.start hword
  · exact hwithin.stop hword

end Python
end DeclSearch
