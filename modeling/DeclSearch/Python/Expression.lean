/-
# Reading expressions

The grammar of expressions, rule by rule.  A rule that may contain expressions takes the
reader of the smaller ones as an argument, so that only `expression` refers to itself;
it is bounded by a number that every nesting lowers, and every nesting takes a token.

What may be assigned to is read as an expression and tested afterwards.

A text that cannot be read is read once more, for a report on it.  Then the rules also look for what
is often written in the place of what they expect, and halt with a report where they find it.  Of a
report only the column counts, and that in a replacement field only: columns are counted from the
start of the field there, and a report on something to the left of it makes the parser break down
(`slotFault`).
-/

import DeclSearch.Python.Format
import DeclSearch.Python.Parse
import DeclSearch.Python.Syntax

namespace DeclSearch
namespace Python

namespace Expr

mutual

/-- Whether an expression may be assigned to as a whole; inside brackets it may also be
starred. -/
def isTarget : Expr → Bool
  | .name _ _ | .attribute _ _ _ | .subscript _ _ => true
  | .tuple items | .list items => areTargets items
  | _ => false

/-- Whether all items may be assigned to, starred or not. -/
def areTargets : List Expr → Bool
  | [] => true
  | .starred e :: rest => isTarget e && areTargets rest
  | e :: rest => isTarget e && areTargets rest

end

/-- Whether an expression may stand on the left of an equals sign. -/
def isAssignable : Expr → Bool
  | .starred e => e.isTarget
  | e => e.isTarget

/-- Whether an expression may be annotated or be changed in place. -/
def isSingleTarget : Expr → Bool
  | .name _ _ | .attribute _ _ _ | .subscript _ _ => true
  | _ => false

mutual

/-- Whether an expression may be deleted. -/
def isDeletable : Expr → Bool
  | .name _ _ | .attribute _ _ _ | .subscript _ _ => true
  | .tuple items | .list items => areDeletable items
  | _ => false

/-- Whether all items may be deleted. -/
def areDeletable : List Expr → Bool
  | [] => true
  | e :: rest => isDeletable e && areDeletable rest

end

end Expr

/-- The rules that other rules contain. -/
inductive Rule where
  | expression
  | rereadExpression
  | disjunction
  | inversion
  | bitwiseOr
  | factor
  | primary
  deriving Repr, DecidableEq

/-- What a text is read for: its meaning, or a report on what is wrong with it, outside of all
brackets or inside some. -/
inductive Purpose where
  | meaning
  | report
  | bracketReport
  deriving Repr, DecidableEq

/-- What the text in some brackets is read for. -/
def Purpose.inBrackets : Purpose → Purpose
  | .meaning => .meaning
  | _ => .bracketReport

/-- Readers of the rules for every purpose, and the purpose at hand. -/
structure Rules where
  reader : Purpose → Rule → Parse Expr
  purpose : Purpose

instance : CoeFun Rules fun _ => Rule → Parse Expr := ⟨fun r => r.reader r.purpose⟩

/-- The readers for another purpose. -/
def Rules.withPurpose (r : Rules) (purpose : Purpose) : Rules := { r with purpose }

/-- The readers for the text in some brackets. -/
def Rules.inBrackets (r : Rules) : Rules := { r with purpose := r.purpose.inBrackets }

/-- Whether the text is read for a report. -/
def Rules.reports (r : Rules) : Bool := r.purpose ≠ .meaning

namespace Grammar

open Parse

/-- A constant, in which no name occurs. -/
def constant : Expr := .other []

/-- Items with an operator between them. -/
def chain (fuel : Nat) (item : Parse Expr) (operator : Parse Unit) : Parse Expr := do
  let first ← item
  let others ← many fuel (do operator; item)
  if others.isEmpty then return first else return .other (first :: others)

/-- `*` and an operand. -/
def starredOperand (r : Rules) : Parse Expr := do
  discard (sign "*")
  return .starred (← r .bitwiseOr)

/-- `name := value`. -/
def walrus (r : Rules) : Parse Expr := do
  let n ← name
  discard (sign ":=")
  return .other [.name n.id n.start, ← r .expression]

/-- An expression that may be named; `report` looks at what stands behind it. -/
def nameable (r : Rules) (report : List Token → Parse Unit) : Parse Expr := do
  if ← atNameAndSign ":=" then walrus r
  else
    let start ← get
    let e ← r .expression
    report start
    if ← atSign ":=" then mismatch else return e

/-- An item of a list without brackets. -/
def starExpression (r : Rules) : Parse Expr := do
  if ← atSign "*" then starredOperand r else r .expression

/-- One expression, or a tuple without brackets. -/
def tupleOf (fuel : Nat) (item : Parse Expr) : Parse Expr := do
  match ← commaList fuel item with
  | ([e], false) => return e
  | (items, _) => return .tuple items

/-- One expression, or a tuple without brackets. -/
def starExpressions (fuel : Nat) (r : Rules) : Parse Expr := tupleOf fuel (starExpression r)

/-- `yield`, with a value or a source of values. -/
def yieldExpression (fuel : Nat) (r : Rules) : Parse Expr := do
  discard (keyword "yield")
  if ← atKeyword "from" then
    discard next
    return .other [← r .expression]
  else return .other (← attempt (starExpressions fuel r)).toList

/-- What stands in a group, without a report. -/
def grouped (r : Rules) : Parse Expr := do
  if ← atKeyword "yield" then yieldExpression (← get).length r else nameable r fun _ => return

/-- Where an expression starts and what follows it, without the brackets of groups around the whole
of it. -/
def withoutGroups (r : Rules) (behind : List Token) : List Token → List Token × List Token
  | [] => ([], behind)
  | t :: inner =>
    match grouped (r.withPurpose .meaning) inner with
    | .ok (_, close :: rest) =>
      if t.word = .sign "(" && close.word = .sign ")" && rest = behind then
        withoutGroups r (close :: rest) inner
      else (t :: inner, behind)
    | _ => (t :: inner, behind)

/-- Gives up the text with a report on an expression, given its tokens and those behind it. -/
def blameExpression (r : Rules) (start behind : List Token) : Parse Unit :=
  blame (withoutGroups r behind start).1

/-- An item of a list or tuple in brackets, without a report. -/
def plainItem (r : Rules) : Parse Expr := do
  if ← atSign "*" then starredOperand r else nameable r fun _ => return

/-- A single thing to assign to, where no operator may stand. -/
def starTarget (r : Rules) : Parse Expr := do
  if ← atSign "*" then
    discard next
    let e ← r .primary
    if e.isTarget then return .starred e else mismatch
  else
    let e ← r .primary
    if e.isTarget then return e else mismatch

/-- The things that a loop assigns to. -/
def starTargets (fuel : Nat) (r : Rules) : Parse Expr := tupleOf fuel (starTarget r)

/-- Items with commas between them in round or square brackets. -/
def itemsInBrackets (fuel : Nat) (r : Rules) : Parse Unit := do
  discard (anySign ["(", "["])
  discard (commaList fuel (plainItem r))
  discard (anySign [")", "]"])

/-- Gives up the text with a report on the first of some items that cannot be assigned to, if there
is one; `inside` says that they stand in brackets, where they may be named.  Of a comparison only a
test of membership is looked at, which has such items on its left.  The items were read before, so
here they are read for their meaning alone. -/
def blameTargets (fuel : Nat) (r : Rules) (inside : Bool) : (depth : Nat) → Parse Unit
  | 0 => return
  | depth + 1 => do
    let r := r.withPurpose .meaning
    let item : Parse Unit := do
      if inside && (← atNameAndSign ":=") then blame (← get)
      let star ← attempt (sign "*")
      let start ← get
      discard (r (if star.isSome then .bitwiseOr else .expression))
      let behind ← get
      -- An item is an operand, a comparison of operands, or something that is no target for sure.
      let compared ← if star.isSome then pure none else tryOn start (r .inversion)
      let some (e, rest) ← tryOn start (r .bitwiseOr) | blame start
      if rest ≠ behind && !compared.any (·.2 = behind) then blame start
      let isSearched := (rest.head?.map (·.word)) = some (.keyword "in")
      if !e.isTarget && (rest = behind || isSearched) then
        -- Of a tuple or a list the report is on an item, which stands behind the bracket.
        if (← tryOn start (itemsInBrackets fuel r)).any (·.2 = rest) then
          discard (tryOn (start.drop 1) (blameTargets fuel r true depth))
        else blameExpression r start rest
    discard (commaList fuel item)

/-- Reports on what stands in the place of the things that a loop assigns to. -/
def reportTargets (fuel : Nat) (r : Rules) : Parse Unit := do
  if r.reports then
    let start ← get
    unless ← isAhead (do discard (starTargets fuel r); keyword "in") do
      if (← tryOn start (starExpressions fuel r)).isSome then
        discard (tryOn start (blameTargets fuel r false fuel))

/-- One `for` of a comprehension with its conditions. -/
def comprehensionFor (fuel : Nat) (r : Rules) : Parse (List Expr) := do
  discard (attempt (keyword "async"))
  discard (keyword "for")
  reportTargets fuel r
  let targets ← starTargets fuel r
  discard (keyword "in")
  let source ← r .disjunction
  let conditions ← many fuel (do discard (keyword "if"); r .disjunction)
  return targets :: source :: conditions

/-- Whether a comprehension goes on here. -/
def atFor : Parse Bool := return (← atKeyword "for") || (← atKeyword "async")

/-- A comprehension behind its first part. -/
def comprehension (fuel : Nat) (r : Rules) (first : List Expr) : Parse Expr := do
  let clauses ← atLeastOne fuel (comprehensionFor fuel r)
  return .other (first ++ clauses.flatten)

/-- A list, a tuple or a generator in its brackets. -/
def display (r : Rules) : Parse Unit := do
  let fuel := (← get).length
  let items : Parse Unit := discard (commaList fuel (plainItem r))
  if ← atSign "[" then
    discard next
    if !(← atSign "]") then items
    discard (sign "]")
  else
    discard (sign "(")
    if !(← atSign ")") then
      discard (plainItem r)
      if ← atFor then discard (atLeastOne fuel (comprehensionFor fuel r))
      else
        discard (sign ",")
        if !(← atSign ")") then items
    discard (sign ")")

/-- Reports on an assignment to something that cannot be named here. -/
def reportAssignment (r : Rules) (start : List Token) : Parse Unit := do
  if r.reports then
    let behind ← get
    if ← atSign ":=" then
      if ← isAhead (do discard next; r .expression) then blameExpression r start behind
    else if ← atSign "=" then
      let isConstant := (start.head?.map (·.word)).any fun w =>
        [Word.keyword "None", .keyword "True", .keyword "False"].contains w
      -- Displays may be assigned to elsewhere, and what starts with one is passed over with them.
      let isDisplay := (← tryOn start (display (r.withPurpose .meaning))).isSome
      let operand ← tryOn start (r.withPurpose .meaning .bitwiseOr)
      let value : Parse Unit := do
        discard next
        discard (r .bitwiseOr)
        if ← atAnySign ["=", ":="] then mismatch
      if operand.any (·.2 = behind) && !isConstant && !isDisplay then
        if ← isAhead value then blameExpression r start behind

/-- An expression that may be named. -/
def namedExpression (r : Rules) : Parse Expr := nameable r (reportAssignment r)

/-- An item of a list or tuple in brackets. -/
def starNamedExpression (r : Rules) : Parse Expr := do
  if ← atSign "*" then starredOperand r else namedExpression r

/-- What stands on the right of an equals sign. -/
def assignedValue (fuel : Nat) (r : Rules) : Parse Expr := do
  if ← atKeyword "yield" then yieldExpression fuel r else starExpressions fuel r

/-- Reports on an expression that cannot stand in front of a comprehension, given its tokens and
those behind it. -/
def reportComprehension (fuel : Nat) (r : Rules) (start behind : List Token) : Parse Unit := do
  if r.reports && (← atFor) then
    if ← isAhead (atLeastOne fuel (comprehensionFor fuel r)) then blameExpression r start behind

/-- A starred expression in front of a comprehension, or of a bracket where it may not stand
alone. -/
def misplacedStar (fuel : Nat) (r : Rules) (alone : Bool) : Parse Unit := do
  discard (sign "*")
  let some _ ← attempt (r .expression) | halt .stuck
  unless alone && (← atSign ")") do discard (atLeastOne fuel (comprehensionFor fuel r))

/-- Reports on a starred expression behind a bracket, unless it is an item in front of some sign. -/
def reportStarred (fuel : Nat) (r : Rules) (alone : Bool) (ends : List String) : Parse Unit := do
  if r.reports && (← atSign "*") then
    unless ← isAhead (do discard (starredOperand r); anySign ends) do
      if ← isAhead (misplacedStar fuel r alone) then blame (← get)

/-- Reports on an unpacked mapping in round brackets. -/
def reportMapping (r : Rules) : Parse Unit := do
  if r.reports && (← atSign "**") then
    if ← isAhead (do discard next; discard (r .expression); sign ")") then blame (← get)

/-- The items of a list in brackets, perhaps none, up to the bracket. -/
def itemsUpTo (fuel : Nat) (r : Rules) (close : String) : Parse (List Expr) := do
  if ← atSign close then return []
  return (← commaList fuel (starNamedExpression r)).1

/-- The rest of a list behind its first item, which starts with some tokens. -/
def moreItems (fuel : Nat) (r : Rules) (start : List Token) (first : Expr) (close : String) :
    Parse (List Expr) := do
  let behind ← get
  if ← atSign "," then
    discard next
    if close ≠ ")" then reportComprehension fuel r start behind
    let others ← itemsUpTo fuel r close
    if close ≠ ")" then reportComprehension fuel r start behind
    return first :: others
  else return [first]

/-- A group, a tuple or a generator in round brackets. -/
def parenthesized (fuel : Nat) (r : Rules) : Parse Expr := do
  discard (sign "(")
  if ← atSign ")" then
    discard next
    return .tuple []
  else if ← atKeyword "yield" then
    let e ← yieldExpression fuel r
    discard (sign ")")
    return .other [e]
  else
    reportStarred fuel r true [","]
    reportMapping r
    let start ← get
    let first ← starNamedExpression r
    let starred := first matches .starred _
    let result ←
      if ← atSign "," then pure (.tuple (← moreItems fuel r start first ")"))
      else if starred then mismatch
      else if ← atFor then comprehension fuel r [first]
      else pure first
    discard (sign ")")
    return result

/-- A list or a comprehension in square brackets. -/
def bracketed (fuel : Nat) (r : Rules) : Parse Expr := do
  discard (sign "[")
  if ← atSign "]" then
    discard next
    return .list []
  else
    reportStarred fuel r false [",", "]"]
    let start ← get
    let first ← starNamedExpression r
    let result ←
      if (← atFor) && !(first matches .starred _) then comprehension fuel r [first]
      else pure (.list (← moreItems fuel r start first "]"))
    discard (sign "]")
    return result

/-- Reports on a key without a value, at its end.  This is done in the first reading, too. -/
def reportKey (r : Rules) (start : List Token) : Parse Unit := do
  unless ← atSign ":" do
    let (key, behind) := withoutGroups r (← get) start
    let last := (key.take (key.length - behind.length)).getLast?
    halt (.blame ((last.map (·.stop.column)).getD 0))

/-- Reports on what stands in the place of a value, behind a colon.  This is done in the first
reading, too. -/
def reportValue (r : Rules) (colon : List Token) : Parse Unit := do
  if ← atAnySign ["\x7d", ","] then blame colon
  else if ← isAhead (starredOperand r) then blame (← get)

/-- A key and its value, or a mapping to be unpacked. -/
def dictItem (r : Rules) : Parse (List Expr) := do
  if ← atSign "**" then
    discard next
    return [← r .bitwiseOr]
  else
    let start ← get
    let key ← r .expression
    reportKey r start
    let colon ← get
    discard (sign ":")
    reportValue r colon
    return [key, ← r .expression]

/-- The rest of a mapping behind its first item. -/
def moreDictItems (fuel : Nat) (r : Rules) (first : List Expr) : Parse Expr := do
  let others ← many fuel (do discard (sign ","); dictItem r)
  discard (attempt (sign ","))
  return .other (first ++ others.flatten)

/-- A mapping, a set or a comprehension in curly brackets; a key is neither starred nor
does it assign a name. -/
def braced (fuel : Nat) (r : Rules) : Parse Expr := do
  discard (sign "\x7b")
  let result ←
    if ← atSign "\x7d" then pure constant
    else if ← atSign "**" then do
      let start ← get
      let first ← dictItem r
      reportComprehension fuel r start []
      moreDictItems fuel r first
    else
      let isKey := !(← atSign "*") && !(← atNameAndSign ":=")
      reportStarred fuel r false [",", "\x7d"]
      let start ← get
      let first ← starNamedExpression r
      if isKey && (← atSign ":") then
        let colon ← get
        discard next
        reportValue r colon
        let value ← r .expression
        if ← atFor then comprehension fuel r [first, value]
        else moreDictItems fuel r [first, value]
      else if (← atFor) && !(first matches .starred _) then comprehension fuel r [first]
      else pure (.other (← moreItems fuel r start first "\x7d"))
  discard (sign "\x7d")
  return result

/-- What comes of a report on a slot: columns are counted from the slot's origin, and the parser
breaks down over a report on something to the left of it. -/
def reportFault (l : Literal) (slot : Format.Slot) (column : Nat) : Fault :=
  if column < slot.origin l then .internal else .malformed

/-- What comes of a report on the last token that the reader of a slot looks at. -/
def furthestFault (fuel : Nat) (r : Rules) (l : Literal) (slot : Format.Slot) (ts : List Token) :
    Fault :=
  match furthest? (starExpressions fuel r) ts with
  | some t => reportFault l slot (t.start.column + 1)
  | none => .malformed

/-- The fault in a slot, given the halt of its reader and whether all of the text could be cut into
tokens.  Where no report is found, the last token that the reader looks at is reported on, unless
there is something that cannot be a token. -/
def slotFault (fuel : Nat) (r : Rules) (l : Literal) (slot : Format.Slot) (whole : Bool)
    (ts : List Token) : Halt → Fault
  | .fault f => f
  | .blame column => reportFault l slot column
  | .stuck => furthestFault fuel (r.withPurpose .meaning) l slot ts
  | .exhausted => .malformed
  | .mismatch =>
    let again := r.withPurpose .bracketReport
    match starExpressions fuel again ts with
    | .error (.fault f) => f
    | .error (.blame column) => reportFault l slot column
    | .error .stuck => furthestFault fuel again l slot ts
    | _ => if whole then furthestFault fuel (r.withPurpose .meaning) l slot ts else .malformed

/-- The expression in a slot of a format literal, read in brackets of its own. -/
def slotExpression (fuel : Nat) (r : Rules) (l : Literal) (slot : Format.Slot) :
    Except Halt Expr :=
  let read := starExpressions fuel (r.withPurpose .meaning)
  match slot.tokens with
  | .ok ts =>
    match read ts with
    | .ok (e, _) => .ok e
    | .error why => .error (.fault (slotFault fuel r l slot true ts why))
  | .error ts =>
    match read ts with
    | .ok _ => .error (.fault .malformed)
    | .error why => .error (.fault (slotFault fuel r l slot false ts why))

/-- Takes a string literal, with its token. -/
def literal : Parse (Token × Literal) := do
  let t ← next
  match t.word with
  | .string l => return (t, l)
  | _ => mismatch

/-- The expressions inside a literal among others, all of bytes or all of text, in front of some
tokens.  Where a literal cannot be cut, what is wrong with the expressions in front of that place
comes first. -/
def literalParts (fuel : Nat) (r : Rules) (behind : List Token) (ofBytes : Bool)
    (entry : Token × Literal) : Except Halt (List Expr) :=
  let (t, l) := entry
  let report : Halt := .blame ((behind.head?.map (·.start.column + 1)).getD 0)
  if l.isBytes && l.body.any Text.isHigh then .error (.blame (t.start.column + 1))
  else if l.isBytes && !Escape.isByteString l.isRaw l.body then .error report
  else if !l.isBytes && !l.isFormat && !Escape.isText l.isRaw l.body then .error report
  else if l.isBytes ≠ ofBytes then .error report
  else if l.isFormat then
    match Format.slots l with
    | .ok slots => slots.mapM (slotExpression fuel r l)
    | .error slots => do
      discard (slots.mapM (slotExpression fuel r l))
      .error report
  else .ok []

/-- String literals one after another, all of bytes or all of text. -/
def strings (fuel : Nat) (r : Rules) : Parse Expr := do
  let literals ← atLeastOne fuel literal
  let ofBytes := (literals.head?.map (·.2)).any Literal.isBytes
  match literals.mapM (literalParts fuel r (← get) ofBytes) with
  | .ok parts => return .other parts.flatten
  | .error why => halt why

/-- The smallest expressions. -/
def atom (fuel : Nat) (r : Rules) : Parse Expr := do
  match ← peek with
  | .name _ _ =>
    let n ← name
    return .name n.id n.start
  | .number _ =>
    discard next
    return constant
  | .hugeNumber => blame []
  | .string _ => strings fuel r
  | .keyword "None" | .keyword "True" | .keyword "False" | .sign "..." =>
    discard next
    return constant
  | .sign "(" => parenthesized fuel r.inBrackets
  | .sign "[" => bracketed fuel r.inBrackets
  | .sign "\x7b" => braced fuel r.inBrackets
  | _ => mismatch

/-- How far a list of arguments has come: positional ones are allowed, or only named
ones and unpacked lists, or only named ones and unpacked mappings. -/
inductive ArgumentPhase where
  | positional
  | named
  | mapping
  deriving Repr, DecidableEq

/-- An expression in the place of an argument, which may be named. -/
def argumentValue (r : Rules) : Parse Expr := nameable r fun _ => return

/-- An unpacked list in the place of an argument. -/
def starredArgument (r : Rules) : Parse Expr := do
  discard (sign "*")
  let some e ← attempt (r .expression) | halt .stuck
  return .starred e

/-- Reports on an expression in the place of an argument's name, given its tokens. -/
def reportArgumentName (r : Rules) (start : List Token) : Parse Unit := do
  if r.reports && (← atSign "=") then
    let behind ← get
    let e ← tryOn start (r.withPurpose .meaning .expression)
    if e.any (·.2 = behind) then blameExpression r start behind

/-- Any argument, wherever it may stand, with a report on what looks like a named one. -/
def anyArgument (r : Rules) : Parse Unit := do
  if ← atSign "*" then discard (starredArgument r)
  else if ← atSign "**" then
    discard next
    discard (r .expression)
  else if ← atNameAndSign "=" then
    discard next
    discard next
    discard (r .expression)
  else
    let start ← get
    discard (argumentValue r)
    reportArgumentName r start

/-- Reports on an expression in the place of a named argument, whether it looks like one or not. -/
def reportArgument (fuel : Nat) (r : Rules) : Parse Unit := do
  if r.reports then
    let start ← get
    let value : Parse Unit := do
      discard (r .expression)
      let behind ← get
      if ← atSign "=" then blameExpression r start behind
      reportComprehension fuel r start behind
    discard (tryOn start value)
    if (← tryOn start (commaSeparated fuel (anyArgument r))).isSome then halt .stuck

/-- One argument, and the phase behind it, given the tokens from the comma in front of it on. -/
def argument (fuel : Nat) (r : Rules) (comma : List Token) (phase : ArgumentPhase) :
    Parse (Expr × ArgumentPhase) := do
  let start ← get
  if ← atSign "*" then
    if phase = .mapping && !r.reports then mismatch
    let e ← starredArgument r
    if phase = .mapping then
      if ← atSign "=" then mismatch
      discard (many fuel (do discard (sign ","); starredArgument r))
      blame comma
    return (e, phase)
  else if ← atSign "**" then
    discard next
    return (.keyword none (← r .expression), .mapping)
  else if ← atNameAndSign "=" then
    let n ← name
    discard next
    let value ← r .expression
    reportComprehension fuel r start []
    return (.keyword n.id value, if phase = .positional then .named else phase)
  else if phase = .positional then
    let e ← argumentValue r
    reportArgumentName r start
    if ← atSign "=" then mismatch else return (e, phase)
  else
    reportArgument fuel r
    mismatch

/-- Looks at a comprehension behind an argument, and reports on it unless the argument is the first
one. -/
def reportGeneratorArgument (fuel : Nat) (r : Rules) (first : Bool) (start behind : List Token) :
    Parse Unit := do
  if !first then reportComprehension fuel r start behind
  else if r.reports then discard (isAhead (atLeastOne fuel (comprehensionFor fuel r)))

/-- The arguments behind those already read (last one first) and their comma, up to the bracket. -/
def argumentsOnto (bound : Nat) (r : Rules) (comma : List Token) (done : List Expr)
    (phase : ArgumentPhase) : (fuel : Nat) → Parse (List Expr)
  | 0 => mismatch
  | fuel + 1 => do
    if ← atSign ")" then return done.reverse
    let start ← get
    let (e, phase) ← argument bound r comma phase
    let behind ← get
    reportGeneratorArgument bound r done.isEmpty start behind
    if ← atSign "," then
      discard next
      argumentsOnto bound r behind (e :: done) phase fuel
    else return (e :: done).reverse

/-- The arguments of a call or a class up to the closing bracket. -/
def arguments (fuel : Nat) (r : Rules) : Parse (List Expr) :=
  argumentsOnto fuel r [] [] .positional fuel

/-- Whether the next argument is a positional one without a star. -/
def atPlainArgument : Parse Bool :=
  return !(← atAnySign ["*", "**", ")"]) && !(← atNameAndSign "=")

/-- The arguments of a call behind its opening bracket; the only one may be a generator
without brackets of its own. -/
def callItems (fuel : Nat) (r : Rules) : Parse (List Expr) := do
  if ← atPlainArgument then
    let start ← get
    let first ← argumentValue r
    let behind ← get
    if ← atFor then
      let generator ← comprehension fuel r [first]
      if r.reports && (← atSign ",") then
        discard (isAhead (do discard next; commaSeparated fuel (anyArgument r)))
        blameExpression r start behind
      return [generator]
    else if ← atSign "=" then
      reportArgumentName r start
      mismatch
    else if ← atSign "," then
      discard next
      argumentsOnto fuel r behind [first] .positional fuel
    else return [first]
  else
    reportStarred fuel r false []
    arguments fuel r

/-- The arguments of a call with their brackets. -/
def callArguments (fuel : Nat) (r : Rules) : Parse (List Expr) := do
  discard (sign "(")
  let items ← callItems fuel r
  discard (sign ")")
  return items

/-- A bound of a slice, which may be left out. -/
def bound (r : Rules) : Parse (List Expr) := do
  if ← atAnySign [":", ",", "]"] then return [] else return [← r .expression]

/-- The bounds of a slice behind the first one. -/
def sliceBounds (r : Rules) (lower : List Expr) : Parse (List Expr) := do
  discard (sign ":")
  let upper ← bound r
  if ← atSign ":" then
    discard next
    return lower ++ upper ++ (← bound r)
  else return lower ++ upper

/-- One index: a slice, an expression or an unpacked list. -/
def index (r : Rules) : Parse (List Expr) := do
  if ← atSign "*" then return [← starredArgument r]
  else if ← atSign ":" then sliceBounds r []
  else if ← atNameAndSign ":=" then return [← walrus r]
  else
    let start ← get
    let e ← r .expression
    if ← atSign ":" then sliceBounds r [e]
    else
      reportAssignment r start
      if ← atSign ":=" then mismatch else return [e]

/-- One step behind an atom: an attribute, a call or a subscript. -/
def trailer (fuel : Nat) (r : Rules) (e : Expr) : Parse Expr := do
  if ← atSign "." then
    discard next
    let n ← name
    return .attribute e n.id n.stop
  else if ← atSign "(" then return .call e (← callArguments fuel r.inBrackets)
  else if ← atSign "[" then
    discard next
    let (items, _) ← commaList fuel (index r.inBrackets)
    discard (sign "]")
    return .subscript e items.flatten
  else mismatch

/-- Reports on a comprehension in brackets that are no round ones, as if it were a call. -/
def reportGenerator (fuel : Nat) (r : Rules) : Parse Unit := do
  let generator : Parse Unit := do
    discard (anySign ["[", "\x7b"])
    reportStarred fuel r false []
    let start ← get
    discard (starNamedExpression r)
    let behind ← get
    discard (sign ",")
    discard (attempt (commaList fuel (starNamedExpression r)))
    reportComprehension fuel r start behind
  if r.reports then discard (isAhead generator)

/-- The steps behind an expression. -/
def trailers (bound : Nat) (r : Rules) (e : Expr) : (fuel : Nat) → Parse Expr
  | 0 => return e
  | fuel + 1 => do
    match ← attempt (trailer bound r e) with
    | some e => trailers bound r e fuel
    | none =>
      reportGenerator bound r.inBrackets
      return e

/-- An atom with the steps behind it. -/
def primary (fuel : Nat) (r : Rules) : Parse Expr := do
  trailers fuel r (← atom fuel r) fuel

/-- A primary that may be awaited. -/
def awaited (fuel : Nat) (r : Rules) : Parse Expr := do
  if ← atKeyword "await" then
    discard next
    return .other [← primary fuel r]
  else primary fuel r

/-- A power. -/
def power (fuel : Nat) (r : Rules) : Parse Expr := do
  let base ← awaited fuel r
  match ← attempt (do discard (sign "**"); r .factor) with
  | some exponent => return .other [base, exponent]
  | none => return base

/-- A power with signs in front of it. -/
def factor (fuel : Nat) (r : Rules) : Parse Expr := do
  if ← atAnySign ["+", "-", "~"] then
    discard next
    return .other [← r .factor]
  else power fuel r

/-- The operators between two operands, the tighter ones first. -/
def binaryOperators : List (List String) :=
  [["*", "/", "//", "%", "@"], ["+", "-"], ["<<", ">>"], ["&"], ["^"], ["|"]]

/-- Operands with binary operators between them. -/
def bitwiseOr (fuel : Nat) (r : Rules) : Parse Expr :=
  binaryOperators.foldl (fun item signs => chain fuel item (anySign signs)) (factor fuel r)

/-- An operator of comparison. -/
def comparisonOperator : Parse Unit := do
  match ← peek with
  | .sign text =>
    if ["==", "!=", "<=", "<", ">=", ">"].contains text then discard next else mismatch
  | .keyword "in" => discard next
  | .keyword "not" =>
    discard next
    discard (keyword "in")
  | .keyword "is" =>
    discard next
    discard (attempt (keyword "not"))
  | _ => mismatch

/-- Operands with comparisons between them. -/
def comparison (fuel : Nat) (r : Rules) : Parse Expr :=
  chain fuel (bitwiseOr fuel r) comparisonOperator

/-- A comparison, perhaps negated. -/
def inversion (fuel : Nat) (r : Rules) : Parse Expr := do
  if ← atKeyword "not" then
    discard next
    return .other [← r .inversion]
  else comparison fuel r

/-- Conditions with `and` and `or` between them. -/
def disjunction (fuel : Nat) (r : Rules) : Parse Expr :=
  chain fuel (chain fuel (inversion fuel r) (discard (keyword "and"))) (discard (keyword "or"))

/-- How far a list of parameters has come. -/
structure ParameterState where
  any : Bool
  slash : Bool
  defaulted : Bool
  star : Bool
  owesName : Bool
  deriving Repr, DecidableEq

/-- The annotation of a parameter; `starred` says that it may be unpacked. -/
def typeHint (r : Rules) (annotated starred : Bool) : Parse (List Expr) := do
  if annotated && (← atSign ":") then
    discard next
    if starred then return [← starExpression r] else return [← r .expression]
  else return []

/-- Gives up a list of parameters, with a report on what starts with some tokens. -/
def refuseParameter {α : Type} (r : Rules) (start : List Token) : Parse α :=
  if r.reports then blame start else mismatch

/-- Gives up a list of parameters that ends behind a bare star. -/
def refuseBareStar {α : Type} (r : Rules) : Parse α :=
  if r.reports then halt .stuck else mismatch

/-- Reports on what starts with some tokens in a list of parameters, if a reader of what must not
stand there could go on. -/
def reportParameter (r : Rules) (start : List Token) (p : Parse Unit) : Parse Unit := do
  if r.reports then
    if ← isAhead p then blame start

/-- A name in the place of a parameter, up to what may stand behind it. -/
def parameterName : Parse Unit := do
  discard name
  anySign [",", ":", ")"]

/-- Reports on a value for a parameter that takes all arguments left. -/
def reportDefault (r : Rules) : Parse Unit := do
  reportParameter r (← get) (discard (sign "="))

/-- Reports on what stands behind the last parameter. -/
def reportLast (r : Rules) : Parse Unit := do
  reportDefault r
  reportParameter r ((← get).drop 1) do
    discard (sign ",")
    if !(← atAnySign ["*", "**", "/"]) then discard name

/-- Reports on parameters in brackets. -/
def reportBracketed (fuel : Nat) (r : Rules) (s : ParameterState) : Parse Unit := do
  if !s.slash && !s.defaulted && !s.star then
    reportParameter r (← get) do
      discard (sign "(")
      discard (commaList fuel name)
      discard (sign ")")

/-- One parameter up to its comma, the expressions in it, and the state behind it. -/
def parameter (r : Rules) (annotated : Bool) (s : ParameterState) :
    Parse (List Expr × ParameterState) := do
  let start ← get
  if ← atSign "/" then
    discard next
    if s.slash || s.star then refuseParameter r start
    else if s.any then
      reportParameter r (← get) (discard (sign "*"))
      return ([], { s with slash := true })
    else
      reportParameter r start (discard (sign ","))
      mismatch
  else if ← atSign "*" then
    discard next
    if s.star then
      reportParameter r start do
        if !(← atSign ",") then parameterName
      mismatch
    if ← atSign ":" then refuseBareStar r
    else if ← atSign "," then return ([], { s with star := true, owesName := true })
    else
      discard name
      let parts ← typeHint r annotated true
      reportDefault r
      return (parts, { s with star := true })
  else
    discard name
    let parts ← typeHint r annotated false
    if ← atSign "=" then
      discard next
      return (parts ++ [← r .expression],
        { s with any := true, defaulted := true, owesName := false })
    else if s.defaulted && !s.star then
      reportParameter r start (anySign [",", if annotated then ")" else ":"])
      mismatch
    else return (parts, { s with any := true, owesName := false })

/-- The expressions in the parameters behind those already read, up to a closing sign. -/
def parametersOnto (r : Rules) (annotated : Bool) (close : String) (done : List Expr)
    (s : ParameterState) : (fuel : Nat) → Parse (List Expr)
  | 0 => mismatch
  | fuel + 1 => do
    if ← atSign close then (if s.owesName then refuseBareStar r else return done)
    else if ← atSign "**" then
      if s.owesName then refuseBareStar r
      discard next
      discard name
      let parts ← typeHint r annotated false
      reportLast r
      discard (attempt (sign ","))
      return done ++ parts
    else
      reportBracketed fuel r s
      let (parts, s) ← parameter r annotated s
      if ← atSign "," then
        discard next
        parametersOnto r annotated close (done ++ parts) s fuel
      else if s.owesName then refuseBareStar r
      else return done ++ parts

/-- The expressions in a list of parameters, up to a closing sign. -/
def parameters (fuel : Nat) (r : Rules) (annotated : Bool) (close : String) :
    Parse (List Expr) :=
  parametersOnto r annotated close [] ⟨false, false, false, false, false⟩ fuel

/-- `lambda` with its parameters and its value, which `inner` reads. -/
def lambda (fuel : Nat) (r inner : Rules) : Parse Expr := do
  discard (keyword "lambda")
  let parts ← parameters fuel r false ":"
  discard (sign ":")
  return .other (parts ++ [← inner .expression])

/-- The statements that became functions. -/
def formerStatements : List String := ["print", "exec"]

/-- The words that are keywords in their place only. -/
def softKeywords : List String := ["_", "case", "match"]

/-- Whether tokens start with a name that may belong to what follows it: the beginning of a soft
keyword, or any name in front of a string. -/
def startsLoosely (ts : List Token) : Bool :=
  match ts with
  | ⟨.name id plain, _, _⟩ :: behind =>
    (plain && softKeywords.any fun word => id.toList.isPrefixOf word.toList) ||
      behind.head?.any (·.word matches .string _)
  | _ => false

/-- Reports on an expression in front of another one, given its tokens.  Outside of brackets the
other one is only looked at. -/
def reportPair (r : Rules) (start : List Token) : Parse Unit := do
  if r.reports && !startsLoosely start then
    let behind ← get
    let isFormer :=
      match withoutGroups r behind start with
      | (⟨.name id _, _, _⟩ :: rest, behind) => rest = behind && formerStatements.contains id
      | _ => false
    let isPair ← isAhead (r.withPurpose .meaning .expression)
    if isPair && !isFormer && r.purpose = .bracketReport then blameExpression r start behind

/-- Reads the expressions behind a name for reports of their own.  Where the name may be the first
expression of a pair, the second one was read before, without reports, and its parts are not looked
at again. -/
def rereadBehind (fuel : Nat) (r : Rules) (start : List Token) : Parse Unit := do
  if startsLoosely start then discard (starExpressions fuel r)
  else
    if ← atSign "*" then discard (starredOperand (r.withPurpose .meaning))
    else discard (r .rereadExpression)
    discard (many fuel (do discard (sign ","); starExpression r))

/-- Reports on a function that is used like the statement it was.  What stands behind any other name
is read for reports of its own. -/
def reportFormer (fuel : Nat) (r : Rules) (start : List Token) : Parse Unit := do
  match start with
  | ⟨.name id _, _, _⟩ :: behind =>
    if r.reports && (behind.head?.map (·.word)) ≠ some (.sign "(") then
      let value ← tryOn behind (rereadBehind fuel r start)
      if formerStatements.contains id && value.isSome then blame start
  | _ => return

/-- Reports on a condition without its other case, given the tokens of what is chosen and those
behind it. -/
def reportChoice (r inner : Rules) (start behind : List Token) : Parse Unit := do
  if r.reports then
    let choice : Parse Unit := do
      discard (keyword "if")
      discard (inner .disjunction)
      if (← atKeyword "else") || (← atSign ":") then mismatch
    if ← isAhead choice then blameExpression r start behind

/-- Any expression without a name or a star in front; `inner` reads its parts. -/
def expressionOf (fuel : Nat) (r inner : Rules) : Parse Expr := do
  if ← atKeyword "lambda" then lambda fuel r inner
  else
    let start ← get
    let value ← disjunction fuel inner
    let behind ← get
    reportPair r start
    reportChoice r inner start behind
    reportFormer fuel r start
    let choice := do
      discard (keyword "if")
      let condition ← inner.withPurpose .meaning .disjunction
      discard (keyword "else")
      return [condition, ← inner .expression]
    match ← attempt choice with
    | some parts => return .other (value :: parts)
    | none => return value

/-- Any expression without a name or a star in front. -/
def expression (fuel : Nat) (r : Rules) : Parse Expr := expressionOf fuel r r

/-- An expression whose parts were read before, without reports. -/
def rereadExpression (fuel : Nat) (r : Rules) : Parse Expr :=
  expressionOf fuel r (r.withPurpose .meaning)

/-- The readers of the rules, given the readers of what they contain. -/
def layer (fuel : Nat) (r : Rules) : Rule → Parse Expr
  | .expression => expression fuel r
  | .rereadExpression => rereadExpression fuel r
  | .disjunction => disjunction fuel r
  | .inversion => inversion fuel r
  | .bitwiseOr => bitwiseOr fuel r
  | .factor => factor fuel r
  | .primary => primary fuel r

/-- The readers of the rules, for at most `fuel` levels of nesting. -/
def readers : (fuel : Nat) → Purpose → Rule → Parse Expr
  | 0, _, _ => mismatch
  | fuel + 1, purpose, rule => layer fuel ⟨readers fuel, purpose⟩ rule

/-- The rules for a purpose. -/
def rules (fuel : Nat) (purpose : Purpose) : Rules := ⟨readers fuel, purpose⟩

end Grammar
end Python
end DeclSearch
