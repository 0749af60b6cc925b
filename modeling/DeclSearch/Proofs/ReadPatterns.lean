/-
# The nodes of patterns

The expressions that are kept of a pattern stand for leaves of its tokens (`reads_casePattern`),
rule by rule as in the grammar of expressions.  A name that captures a value is passed over.
-/

import DeclSearch.Proofs.ReadExpressions
import DeclSearch.Python.Pattern

namespace DeclSearch
namespace Python
namespace Grammar

open Parse

variable {depth fuel : Nat} {before : List Node} {r : Rules} {sub : SubPattern}

/-- Asking whether a name ends here keeps no nodes. -/
theorem passes_endOfName : Passes depth endOfName :=
  .test passes_atAnySign takes_mismatch (.pure (.refl []))

/-- A name that a pattern captures is no node, as it mentions nothing. -/
theorem passes_capture : Passes depth capture :=
  .pass passes_name fun _ => .ite takes_halt_bind passes_endOfName

/-- A number keeps no nodes. -/
theorem passes_number : Passes depth number :=
  .pass passes_next fun _ => by
    split
    · exact .pure (.refl [])
    · exact takes_mismatch

/-- A number with its sign is an expression without nodes. -/
theorem reads_signedNumber : Reads depth signedNumber fun l => l.flatMap Expr.nodes :=
  .pass passes_word.attempt.passes.discard fun _ => .pass passes_number fun _ =>
    .test passes_atAnySign
      (.pass passes_next.discard fun _ => .pass passes_number fun _ =>
        .ite (.pure (by simp)) takes_mismatch)
      (.pure (by simp))

/-- Attributes of a name one after another. -/
theorem nodes_foldl_attribute (names : List Name) (e : Expr) :
    (names.foldl (fun e m => .attribute e m.id m.stop) e).nodes =
      e.nodes ++ names.flatMap fun m => [.attribute m.id m.stop] := by
  induction names generalizing e with
  | nil => simp
  | cons m names ih => simp [ih, Expr.nodes]

/-- A name with its attributes keeps a node for each part. -/
theorem reads_dottedName : Reads depth (dottedName fuel) fun a => a.1.nodes := by
  have hother : Reads depth (do discard (sign "."); name) fun m => [.attribute m.id m.stop] :=
    .pass passes_word.discard fun _ => reads_nameStop
  exact .bind reads_nameStart fun _ => .read (hother.many fuel) fun _ => .pure (by
    rw [nodes_foldl_attribute, Expr.nodes])

section

variable (hsub : Reads depth sub fun l => l.flatMap Expr.nodes)

include hsub

/-- An item of a sequence keeps its nodes; what a star captures is no node. -/
theorem reads_maybeStar : Reads depth (maybeStar sub) fun a => a.1.flatMap Expr.nodes := by
  refine .test passes_atSign ?_ (.bind hsub fun _ => .pure (.refl _))
  refine .pass passes_next.discard fun _ => .pass passes_capture.attempt.passes fun a => ?_
  rcases a with _ | -
  · exact .pass passes_word.discard fun _ => .pure (by simp)
  · exact .pure (by simp)

/-- The items of a sequence up to its bracket keep their nodes. -/
theorem reads_sequenceUpTo {close : String} :
    Reads depth (sequenceUpTo fuel sub close) fun l => l.flatMap Expr.nodes :=
  .test passes_atSign (.pure (by simp)) (.bind ((reads_maybeStar hsub).commaList fuel) fun _ =>
    .pure (by simp [flatMap_nodes_flatten, List.flatMap_map]))

/-- A group or a sequence in round brackets keeps its nodes. -/
theorem reads_roundPattern : Reads depth (roundPattern fuel sub) fun l => l.flatMap Expr.nodes := by
  refine .pass passes_word.discard fun _ => .test passes_atSign ?_ ?_
  · exact .pass passes_next.discard fun _ => .pure (by simp)
  · refine .bind (reads_maybeStar hsub) fun first => .test passes_atSign ?_ (.ite ?_ ?_)
    · exact .pass passes_next.discard fun _ => .read (reads_sequenceUpTo hsub) fun _ =>
        .pass passes_word.discard fun _ => .pure (by simp)
    · exact takes_mismatch
    · exact .pass passes_word.discard fun _ => .pure (.refl _)

/-- A sequence in square brackets keeps its nodes. -/
theorem reads_squarePattern :
    Reads depth (squarePattern fuel sub) fun l => l.flatMap Expr.nodes :=
  .pass passes_word.discard fun _ => .bind (reads_sequenceUpTo hsub) fun _ =>
    .pass passes_word.discard fun _ => .pure (.refl _)

/-- The items in the pattern of a class keep the nodes that were made before, and behind them their
own.  The induction is on the fuel, one step for each item. -/
theorem takes_classItemsOnto {done : List Expr} {named : Bool} :
    Takes depth (done.flatMap Expr.nodes) (classItemsOnto r sub done named fuel)
      fun l => l.flatMap Expr.nodes := by
  induction fuel generalizing done named with
  | zero => exact takes_mismatch
  | succ fuel ih =>
    have hrest {isNamed : Bool} : Takes depth (done.flatMap Expr.nodes) (do
        let done := done ++ (← sub)
        if ← atSign "," then
          discard next
          classItemsOnto r sub done isNamed fuel
        else return done) fun l => l.flatMap Expr.nodes := by
      refine .read hsub fun items => ?_
      rw [← List.flatMap_append]
      exact .test passes_atSign (.pass passes_next.discard fun _ => ih) (.pure (.refl _))
    refine .test passes_atSign (.pure (.refl _)) (.pass passes_atNameAndSign fun _ => .ite ?_ ?_)
    · exact .pass passes_next.discard fun _ => .pass passes_next.discard fun _ => hrest
    · exact .ite (.optional hsub.passes.discard takes_mismatch) hrest

/-- A pattern that starts with a name keeps its nodes: a capture has none, and a value and a class
have those of the dotted name. -/
theorem reads_namePattern : Reads depth (namePattern fuel r sub) fun l => l.flatMap Expr.nodes := by
  refine .pass passes_peek fun _ => .ite ?_ ?_
  · exact .pass passes_next.discard fun _ => .pure (by simp)
  · refine .bind reads_dottedName fun a => .test passes_atSign ?_ (.test passes_atSign ?_ ?_)
    · exact .pass passes_next.discard fun _ => .read (takes_classItemsOnto hsub) fun _ =>
        .pass passes_word.discard fun _ => .pure (by simp)
    · exact takes_mismatch
    · exact .pure (by split <;> simp)

end

section

variable (h : Traced depth fuel r)

include h

/-- A literal as a pattern keeps the nodes of the expressions in it. -/
theorem reads_literalPattern :
    Reads depth (literalPattern fuel r) fun l => l.flatMap Expr.nodes := by
  refine .pass passes_peek fun _ => ?_
  have hconstant : Reads depth (do discard next; return []) fun l => l.flatMap Expr.nodes :=
    .pass passes_next.discard fun _ => .pure (by simp)
  split
  · exact reads_signedNumber
  · exact reads_signedNumber
  · exact .bind (reads_strings h) fun _ => .pure (by simp)
  · exact hconstant
  · exact hconstant
  · exact hconstant
  · exact takes_mismatch

/-- A key in the pattern of a mapping keeps its nodes. -/
theorem reads_mappingKey : Reads depth (mappingKey fuel r) fun l => l.flatMap Expr.nodes := by
  refine .pass passes_peek fun _ => ?_
  split
  · exact .bind reads_dottedName fun _ => .ite (.pure (by simp)) takes_mismatch
  · exact reads_literalPattern h

variable (hsub : Reads depth sub fun l => l.flatMap Expr.nodes)

include hsub

/-- The entries of a mapping keep the nodes that were made before, and behind them their own.  The
induction is on the steps, one for each entry. -/
theorem takes_mappingOnto {done : List Expr} {steps : Nat} :
    Takes depth (done.flatMap Expr.nodes) (mappingOnto fuel r sub done steps)
      fun l => l.flatMap Expr.nodes := by
  induction steps generalizing done with
  | zero => exact takes_mismatch
  | succ steps ih =>
    refine .test passes_atSign (.pure (.refl _)) (.test passes_atSign ?_ ?_)
    · exact .pass passes_next.discard fun _ => .pass passes_capture fun _ =>
        .pass passes_word.attempt.passes.discard fun _ => .pure (.refl _)
    · refine .read (reads_mappingKey h) fun key => .pass passes_word.discard fun _ =>
        .read hsub fun value => ?_
      rw [← List.flatMap_append, ← List.flatMap_append]
      exact .test passes_atSign (.pass passes_next.discard fun _ => ih) (.pure (.refl _))

/-- The pattern of a mapping keeps its nodes. -/
theorem reads_mappingPattern :
    Reads depth (mappingPattern fuel r sub) fun l => l.flatMap Expr.nodes :=
  .pass passes_word.discard fun _ => .bind (takes_mappingOnto h hsub) fun _ =>
    .pass passes_word.discard fun _ => .pure (.refl _)

/-- A pattern that needs no brackets keeps its nodes. -/
theorem reads_closedPattern :
    Reads depth (closedPattern fuel r sub) fun l => l.flatMap Expr.nodes := by
  refine .pass passes_peek fun _ => ?_
  split
  · exact reads_namePattern hsub
  · exact reads_roundPattern hsub
  · exact reads_squarePattern hsub
  · exact reads_mappingPattern h hsub
  · exact reads_literalPattern h

omit h hsub in
/-- A report on what stands in the place of a name keeps no nodes. -/
theorem passes_reportCapture : Passes depth (reportCapture r) :=
  .ite passes_isAhead.discard (.pure (.refl []))

/-- A pattern keeps its nodes, if the patterns that are nested in it do. -/
theorem reads_patternLayer :
    Reads depth (patternLayer fuel r sub) fun l => l.flatMap Expr.nodes := by
  have hother : Reads depth (do discard (sign "|"); closedPattern fuel r sub)
      fun l => l.flatMap Expr.nodes :=
    .pass passes_word.discard fun _ => reads_closedPattern h hsub
  have hrenamed : Passes depth (do discard (keyword "as"); capture) :=
    .pass passes_word.discard fun _ => passes_capture
  exact .bind (reads_closedPattern h hsub) fun _ => .read (hother.many fuel) fun _ =>
    .pass passes_reportCapture fun _ => .pass hrenamed.attempt.passes.discard fun _ =>
      .pure (by simp [flatMap_nodes_flatten])

omit hsub in
/-- A pattern keeps its nodes.  The induction is on the levels of nesting. -/
theorem reads_pattern (levels : Nat) :
    Reads depth (pattern fuel r levels) fun l => l.flatMap Expr.nodes := by
  induction levels with
  | zero => exact takes_mismatch
  | succ levels ih => exact reads_patternLayer h ih

omit hsub in
/-- **Patterns.**  The expressions in the pattern of a `case` stand for leaves of its tokens. -/
theorem reads_casePattern : Reads depth (casePattern fuel r) fun l => l.flatMap Expr.nodes := by
  have hitem := reads_maybeStar (reads_pattern h fuel)
  refine .bind hitem fun first => .test passes_atSign ?_ (.ite takes_mismatch (.pure (.refl _)))
  refine .pass passes_next.discard fun _ => .read (hitem.commaList fuel).attempt fun a => ?_
  rcases a with _ | ⟨items, last⟩
  · exact .pure (by simp)
  · exact .pure (by simp [flatMap_nodes_flatten, List.flatMap_map])

end

end Grammar
end Python
end DeclSearch
