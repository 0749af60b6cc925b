/-
# Reading statements

The grammar of statements and of whole modules.  Only `block` refers to itself; it is
bounded like the grammar of expressions.
-/

import DeclSearch.Python.Pattern

namespace DeclSearch
namespace Python
namespace Grammar

open Parse

/-- The operators that change a thing in place. -/
def changingOperators : List String :=
  ["+=", "-=", "*=", "@=", "/=", "%=", "&=", "|=", "^=", "<<=", ">>=", "**=", "//="]

/-- The value behind an annotation, if there is one. -/
def annotatedValue (fuel : Nat) (r : Rules) : Parse (Option Expr) := do
  if ← atSign "=" then
    discard next
    return some (← assignedValue fuel r)
  else return none

/-- The annotation behind a target. -/
def annotatedRest (fuel : Nat) (r : Rules) (target : Expr) : Parse Stmt := do
  discard (sign ":")
  let typeHint ← r .expression
  return .annotated target typeHint (← annotatedValue fuel r)

/-- The targets and the value of an assignment, behind the targets already read (last
one first). -/
def assignedOnto (bound : Nat) (r : Rules) (targets : List Expr) : (fuel : Nat) → Parse Stmt
  | 0 => mismatch
  | fuel + 1 => do
    discard (sign "=")
    if ← atKeyword "yield" then
      let value ← yieldExpression bound r
      if ← atSign "=" then mismatch
      return .assign targets.reverse value
    else
      let e ← starExpressions bound r
      if ← atSign "=" then
        if e.isAssignable then assignedOnto bound r (e :: targets) fuel else mismatch
      else return .assign targets.reverse e

/-- Reports on an annotation or a value of expressions that cannot have one, given the tokens of
these expressions. -/
def reportStatement (fuel : Nat) (r : Rules) (start : List Token) : Parse Unit := do
  if r.reports then
    let items : Parse Unit := do
      let (_, several) ← commaList fuel (starNamedExpression r)
      unless several do mismatch
    let annotation : Parse Unit := do
      discard (sign ":")
      discard (r .expression)
    let value : Parse Unit := do
      anySign changingOperators
      discard (assignedValue fuel r)
    let refuse (p : Parse Unit) : Parse Unit := do
      if (← tryOn start p).isSome then blame start
    refuse (do items; annotation)
    refuse (do discard (r .expression); annotation)
    refuse (do discard (starExpressions fuel r); value)

/-- A statement that starts with an expression. -/
def expressionStatement (fuel : Nat) (r : Rules) : Parse Stmt := do
  if ← atNameAndSign ":" then
    let n ← name
    annotatedRest fuel r (.name n.id n.start)
  else
    let start ← get
    let e ← starExpressions fuel r
    if (← atSign ":") && e.isSingleTarget then annotatedRest fuel r e
    else if (← atSign "=") && e.isAssignable then assignedOnto fuel r [e] fuel
    else if (← atAnySign changingOperators) && e.isSingleTarget then
      discard next
      return .plain [e, ← assignedValue fuel r]
    else
      reportStatement fuel r start
      return .plain [e]

/-- The things that `del` deletes. -/
def deletion (fuel : Nat) (r : Rules) : Parse Stmt := do
  if r.reports then discard (isAhead (starExpressions fuel r))
  let items ← commaList fuel do
    let e ← r .bitwiseOr
    if e.isDeletable then return e else mismatch
  return .plain items.1

/-- A name with dots in it. -/
def modulePath (fuel : Nat) : Parse Import := do
  let first ← name
  let others ← many fuel (do discard (sign "."); name)
  return ⟨first.id :: others.map (·.id), first.start⟩

/-- Another name behind `as`, if there is one. -/
def newName : Parse Unit := do
  if ← atKeyword "as" then
    discard next
    discard name

/-- The modules that `import` names. -/
def importNames (fuel : Nat) : Parse Stmt := do
  discard (keyword "import")
  let names ← commaSeparated fuel do
    let path ← modulePath fuel
    newName
    return path
  return .importNames names

/-- A name that is imported from a module. -/
def importedName : Parse Import := do
  let n ← name
  newName
  return ⟨[n.id], n.start⟩

/-- The names that are imported from a module. -/
def importedNames (fuel : Nat) : Parse (List Import) := do
  if ← atSign "*" then
    let star ← next
    return [⟨["*"], star.start⟩]
  else if ← atSign "(" then
    discard next
    let (names, _) ← commaList fuel importedName
    discard (sign ")")
    return names
  else commaSeparated fuel importedName

/-- `from` a module `import` names. -/
def importFrom (fuel : Nat) : Parse Stmt := do
  let start := (← keyword "from").start
  let dots ← many fuel (anySign [".", "..."])
  let origin ←
    if !dots.isEmpty && (← atKeyword "import") then pure []
    else pure (← modulePath fuel).names
  discard (keyword "import")
  return .importFrom ⟨origin, start⟩ (← importedNames fuel)

/-- `raise`, perhaps with an exception and its cause. -/
def raising (r : Rules) : Parse Stmt := do
  match ← attempt (r .expression) with
  | some e =>
    if ← atKeyword "from" then
      discard next
      return .plain [e, ← r .expression]
    else return .plain [e]
  | none => return .plain []

/-- `assert` with its condition and perhaps a message. -/
def assertion (r : Rules) : Parse Stmt := do
  let condition ← r .expression
  if ← atSign "," then
    discard next
    return .plain [condition, ← r .expression]
  else return .plain [condition]

/-- A statement without a body. -/
def simpleStatement (fuel : Nat) (r : Rules) : Parse Stmt := do
  match ← peek with
  | .keyword "return" =>
    discard next
    return .plain (← attempt (starExpressions fuel r)).toList
  | .keyword "import" => importNames fuel
  | .keyword "from" => importFrom fuel
  | .keyword "raise" =>
    discard next
    raising r
  | .keyword "pass" | .keyword "break" | .keyword "continue" =>
    discard next
    return .plain []
  | .keyword "del" =>
    discard next
    deletion fuel r
  | .keyword "yield" => return .plain [← yieldExpression fuel r]
  | .keyword "assert" =>
    discard next
    assertion r
  | .keyword "global" | .keyword "nonlocal" =>
    discard next
    discard (commaSeparated fuel name)
    return .plain []
  | _ => expressionStatement fuel r

/-- A line of simple statements behind those already read (last one first). -/
def simpleLineOnto (bound : Nat) (r : Rules) (done : List Stmt) : (fuel : Nat) →
    Parse (List Stmt)
  | 0 => mismatch
  | fuel + 1 => do
    let s ← simpleStatement bound r
    if ← atSign ";" then
      discard next
      if (← peek) == .newline then
        discard next
        return (s :: done).reverse
      else simpleLineOnto bound r (s :: done) fuel
    else
      discard (word .newline)
      return (s :: done).reverse

/-- A line of simple statements. -/
def simpleLine (fuel : Nat) (r : Rules) : Parse (List Stmt) := simpleLineOnto fuel r [] fuel

/-- The reader of the body of a compound statement. -/
abbrev Body := Parse (List Stmt)

/-- A body behind its colon. -/
def bodyBehindColon (body : Body) : Body := do
  discard (sign ":")
  body

/-- The body behind `else`, if there is one. -/
def elseBody (body : Body) : Body := do
  if ← atKeyword "else" then
    discard next
    bodyBehindColon body
  else return []

/-- The decorators in front of a definition. -/
def decorators (fuel : Nat) (r : Rules) : Parse (List Expr) :=
  many fuel do
    discard (sign "@")
    let e ← namedExpression r
    discard (word .newline)
    return e

/-- A class. -/
def classDef (fuel : Nat) (r : Rules) (body : Body) (decorators : List Expr) : Parse Stmt := do
  let start := (← keyword "class").start
  let n ← name
  let arguments ←
    if ← atSign "(" then do
      discard next
      let items ← arguments fuel r.inBrackets
      discard (sign ")")
      pure items
    else pure []
  return .classDef start n.id decorators arguments (← bodyBehindColon body)

/-- A function, which starts at a place. -/
def functionDef (fuel : Nat) (r : Rules) (body : Body) (start : Position)
    (decorators : List Expr) : Parse Stmt := do
  discard (keyword "def")
  let n ← name
  discard (sign "(")
  let parts ← parameters fuel r.inBrackets true ")"
  discard (sign ")")
  let result ←
    if ← atSign "->" then do
      discard next
      pure [← r .expression]
    else pure []
  return .functionDef start n.id decorators (parts ++ result) (← bodyBehindColon body)

/-- `if` or `elif` with what follows it. -/
def ifElse (r : Rules) (body : Body) : (fuel : Nat) → Parse Stmt
  | 0 => mismatch
  | fuel + 1 => do
    discard next
    let test ← namedExpression r
    let first ← bodyBehindColon body
    if ← atKeyword "elif" then return .ifElse test first [← ifElse r body fuel]
    else return .ifElse test first (← elseBody body)

/-- Reports on what stands in the place of a name for a thing that `with` enters. -/
def reportRenamed (r : Rules) : Parse Unit := do
  if r.reports then discard (isAhead (do discard (keyword "as"); r .expression))

/-- A thing that `with` enters, with the expressions in it. -/
def withItem (r : Rules) : Parse (List Expr) := do
  let e ← r .expression
  let renamed := do
    discard (keyword "as")
    let target ← starTarget r
    if ← atAnySign [",", ")", ":"] then return target else mismatch
  let target ← attempt renamed
  reportRenamed r
  return e :: target.toList

/-- The things that `with` enters, in brackets. -/
def withBracketed (fuel : Nat) (r : Rules) : Parse (List Expr) := do
  discard (sign "(")
  let (items, _) ← commaList fuel (withItem r.inBrackets)
  discard (sign ")")
  if ← atSign ":" then return items.flatten else mismatch

/-- `with` and its body. -/
def withBlock (fuel : Nat) (r : Rules) (body : Body) : Parse Stmt := do
  discard (keyword "with")
  let parts ←
    match ← attempt (withBracketed fuel r) with
    | some parts => pure parts
    | none => pure (← commaSeparated fuel (withItem r)).flatten
  return .withItems parts (← bodyBehindColon body)

/-- `for` and its body. -/
def forLoop (fuel : Nat) (r : Rules) (body : Body) : Parse Stmt := do
  discard (keyword "for")
  reportTargets fuel r
  let targets ← starTargets fuel r
  discard (keyword "in")
  let source ← starExpressions fuel r
  let first ← bodyBehindColon body
  return .loop [targets, source] first (← elseBody body)

/-- `while` and its body. -/
def whileLoop (r : Rules) (body : Body) : Parse Stmt := do
  discard (keyword "while")
  let test ← namedExpression r
  let first ← bodyBehindColon body
  return .loop [test] first (← elseBody body)

/-- Reports on several exceptions without brackets. -/
def reportExceptions (fuel : Nat) (r : Rules) : Parse Unit := do
  if r.reports then discard (isAhead (do discard (sign ","); commaList fuel (r .expression)))

/-- A handler for the exceptions of an expression, which may be given a name. -/
def namedHandler (fuel : Nat) (r : Rules) (body : Body) : Parse Clause := do
  let e ← r .expression
  reportExceptions fuel r
  newName
  return .mk [e] (← bodyBehindColon body)

/-- A handler of an ordinary `try`. -/
def handler (fuel : Nat) (r : Rules) (body : Body) : Parse Clause := do
  discard (keyword "except")
  if ← atSign ":" then return .mk [] (← bodyBehindColon body) else namedHandler fuel r body

/-- A handler of a `try` for groups of exceptions. -/
def groupHandler (fuel : Nat) (r : Rules) (body : Body) : Parse Clause := do
  discard (keyword "except")
  discard (sign "*")
  namedHandler fuel r body

/-- A handler of a `try` of either kind. -/
def handlerOf (fuel : Nat) (r : Rules) (body : Body) (group : Bool) : Parse Clause :=
  if group then groupHandler fuel r body else handler fuel r body

/-- The body behind `finally`. -/
def finalBody (body : Body) : Body := do
  discard (keyword "finally")
  bodyBehindColon body

/-- `try` with its handlers.  For a report a handler of the other kind behind them is read, too. -/
def tryExcept (fuel : Nat) (r : Rules) (body : Body) : Parse Stmt := do
  discard (keyword "try")
  let first ← bodyBehindColon body
  if ← atKeyword "finally" then return .tryExcept false first [] [] (← finalBody body)
  else
    let group := (← peekSecond) == .sign "*"
    let handlers ← atLeastOne fuel (handlerOf fuel r body group)
    if r.reports then discard (isAhead (handlerOf fuel r body !group))
    let orElse ← elseBody body
    let final ← if ← atKeyword "finally" then finalBody body else pure []
    return .tryExcept group first handlers orElse final

/-- The subject of a `match`. -/
def subject (fuel : Nat) (r : Rules) : Parse Expr := do
  match ← commaList fuel (starNamedExpression r) with
  | ([.starred _], false) => mismatch
  | ([e], false) => return e
  | (items, _) => return .tuple items

/-- One `case`. -/
def caseClause (fuel : Nat) (r : Rules) (body : Body) : Parse Clause := do
  discard (soft "case")
  let parts ← casePattern fuel r
  let guard ←
    if ← atKeyword "if" then do
      discard next
      pure [← namedExpression r]
    else pure []
  return .mk (parts ++ guard) (← bodyBehindColon body)

/-- `match` with its cases. -/
def matchCases (fuel : Nat) (r : Rules) (body : Body) : Parse Stmt := do
  discard (soft "match")
  let e ← subject fuel r
  discard (sign ":")
  discard (word .newline)
  discard (word .indent)
  let cases ← atLeastOne fuel (caseClause fuel r body)
  discard (word .dedent)
  return .matchCases e cases

/-- A definition behind its decorators. -/
def definition (fuel : Nat) (r : Rules) (body : Body) (decorators : List Expr) : Parse Stmt := do
  match ← peek with
  | .keyword "class" => classDef fuel r body decorators
  | .keyword "async" => functionDef fuel r body (← next).start decorators
  | _ =>
    let start := ((← get).head?.map (·.start)).getD ⟨0, 0⟩
    functionDef fuel r body start decorators

/-- A statement behind `async` that is no function. -/
def asyncStatement (fuel : Nat) (r : Rules) (body : Body) : Parse Stmt := do
  match ← peekSecond with
  | .keyword "def" => definition fuel r body []
  | .keyword "with" =>
    discard next
    withBlock fuel r body
  | .keyword "for" =>
    discard next
    forLoop fuel r body
  | _ => mismatch

/-- One compound statement, or a line of simple ones. -/
def statements (fuel : Nat) (r : Rules) (body : Body) : Parse (List Stmt) := do
  match ← peek with
  | .sign "@" => return [← definition fuel r body (← decorators fuel r)]
  | .keyword "class" | .keyword "def" => return [← definition fuel r body []]
  | .keyword "async" => return [← asyncStatement fuel r body]
  | .keyword "if" => return [← ifElse r body fuel]
  | .keyword "with" => return [← withBlock fuel r body]
  | .keyword "for" => return [← forLoop fuel r body]
  | .keyword "while" => return [← whileLoop r body]
  | .keyword "try" => return [← tryExcept fuel r body]
  | .name "match" true =>
    match ← attempt (matchCases fuel r body) with
    | some s => return [s]
    | none => simpleLine fuel r
  | _ => simpleLine fuel r

/-- The body of a compound statement, given the reader of the bodies inside it. -/
def blockLayer (fuel : Nat) (r : Rules) (inner : Body) : Body := do
  if (← peek) == .newline then
    discard next
    discard (word .indent)
    let lines ← atLeastOne fuel (statements fuel r inner)
    discard (word .dedent)
    return lines.flatten
  else simpleLine fuel r

/-- The body of a compound statement, for at most `fuel` levels of nesting. -/
def block (bound : Nat) (r : Rules) : (fuel : Nat) → Body
  | 0 => mismatch
  | fuel + 1 => blockLayer bound r (block bound r fuel)

/-- The statements of a module. -/
def module (fuel : Nat) (purpose : Purpose) : Parse (List Stmt) := do
  let r := rules fuel purpose
  let lines ← many fuel (statements fuel r (block fuel r fuel))
  discard (word .finish)
  return lines.flatten

end Grammar

/-- The fault in a module, given the halt of its reader.  A report on the module itself is always
made, but the search for one may come to a fault in a literal that was not read before. -/
def moduleFault (fuel : Nat) (ts : List Token) : Halt → Fault
  | .fault f => f
  | .mismatch =>
    match Grammar.module fuel .report ts with
    | .error (.fault f) => f
    | _ => .malformed
  | .blame _ | .stuck | .exhausted => .malformed

/-- The statements of a source text, or the fault that keeps it from having any. -/
def parseModule (source : List Char) : Except Fault (List Stmt) :=
  let fuel := 2 * source.length + 10
  let read := Grammar.module fuel .meaning
  match Lexer.tokens source with
  | .ok ts =>
    match read ts with
    | .ok (body, _) => .ok body
    | .error why => .error (moduleFault fuel ts why)
  | .error ts =>
    match read ts with
    | .ok _ => .error .malformed
    | .error why => .error (moduleFault fuel ts why)

end Python
end DeclSearch
