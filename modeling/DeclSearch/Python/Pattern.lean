/-
# Reading patterns

The grammar of the patterns of a `case`.  Of a pattern only the expressions in it are
kept: literals, dotted names and the classes of class patterns.  A name that captures a
value is no expression.
-/

import DeclSearch.Python.Expression

namespace DeclSearch
namespace Python
namespace Grammar

open Parse

/-- The reader of a pattern inside another one. -/
abbrev SubPattern := Parse (List Expr)

/-- Fails in front of a sign that would make a name part of something larger. -/
def endOfName : Parse Unit := do
  if ← atAnySign [".", "(", "="] then mismatch

/-- A name that captures a value. -/
def capture : Parse Unit := do
  let n ← name
  if n.plain && n.id == "_" then mismatch
  endOfName

/-- A number: says whether it is imaginary. -/
def number : Parse Bool := do
  match (← next).word with
  | .number imaginary => return imaginary
  | _ => mismatch

/-- A number with a sign, or a complex number. -/
def signedNumber : Parse (List Expr) := do
  discard (attempt (sign "-"))
  let imaginary ← number
  if ← atAnySign ["+", "-"] then
    discard next
    if !imaginary && (← number) then return [] else mismatch
  else return []

/-- A literal. -/
def literalPattern (fuel : Nat) (r : Rules) : Parse (List Expr) := do
  match ← peek with
  | .number _ | .sign "-" => signedNumber
  | .string _ => return [← strings fuel r]
  | .keyword "None" | .keyword "True" | .keyword "False" =>
    discard next
    return []
  | _ => mismatch

/-- A name with the attributes behind it; says whether there are any. -/
def dottedName (fuel : Nat) : Parse (Expr × Bool) := do
  let first ← name
  let others ← many fuel (do discard (sign "."); name)
  let e := others.foldl (fun e n => .attribute e n.id n.stop) (.name first.id first.start)
  return (e, !others.isEmpty)

/-- A pattern that may have a star. -/
def maybeStar (sub : SubPattern) : Parse (List Expr × Bool) := do
  if ← atSign "*" then
    discard next
    match ← attempt capture with
    | some _ => return ([], true)
    | none =>
      discard (soft "_")
      return ([], true)
  else return (← sub, false)

/-- Patterns with commas between them, perhaps none, up to a closing sign. -/
def sequenceUpTo (fuel : Nat) (sub : SubPattern) (close : String) : Parse (List Expr) := do
  if ← atSign close then return []
  let (items, _) ← commaList fuel (maybeStar sub)
  return (items.map (·.1)).flatten

/-- A group or a sequence in round brackets. -/
def roundPattern (fuel : Nat) (sub : SubPattern) : Parse (List Expr) := do
  discard (sign "(")
  if ← atSign ")" then
    discard next
    return []
  else
    let (first, starred) ← maybeStar sub
    if ← atSign "," then
      discard next
      let others ← sequenceUpTo fuel sub ")"
      discard (sign ")")
      return first ++ others
    else if starred then mismatch
    else
      discard (sign ")")
      return first

/-- A sequence in square brackets. -/
def squarePattern (fuel : Nat) (sub : SubPattern) : Parse (List Expr) := do
  discard (sign "[")
  let items ← sequenceUpTo fuel sub "]"
  discard (sign "]")
  return items

/-- The key of a mapping pattern. -/
def mappingKey (fuel : Nat) (r : Rules) : Parse (List Expr) := do
  match ← peek with
  | .name _ _ =>
    let (e, dotted) ← dottedName fuel
    if dotted then return [e] else mismatch
  | _ => literalPattern fuel r

/-- The items of a mapping pattern behind those already read, up to the bracket; the rest
of the mapping comes last. -/
def mappingOnto (bound : Nat) (r : Rules) (sub : SubPattern) (done : List Expr) :
    (fuel : Nat) → Parse (List Expr)
  | 0 => mismatch
  | fuel + 1 => do
    if ← atSign "\x7d" then return done
    if ← atSign "**" then
      discard next
      capture
      discard (attempt (sign ","))
      return done
    else
      let key ← mappingKey bound r
      discard (sign ":")
      let value ← sub
      let done := done ++ key ++ value
      if ← atSign "," then
        discard next
        mappingOnto bound r sub done fuel
      else return done

/-- A mapping pattern. -/
def mappingPattern (fuel : Nat) (r : Rules) (sub : SubPattern) : Parse (List Expr) := do
  discard (sign "\x7b")
  let items ← mappingOnto fuel r sub [] fuel
  discard (sign "\x7d")
  return items

/-- The arguments of a class pattern behind those already read, up to the bracket;
`named` says that only named ones may follow.  For a report the others are read, too. -/
def classItemsOnto (r : Rules) (sub : SubPattern) (done : List Expr) (named : Bool) :
    (fuel : Nat) → Parse (List Expr)
  | 0 => mismatch
  | fuel + 1 => do
    if ← atSign ")" then return done
    let isNamed ← atNameAndSign "="
    if isNamed then
      discard next
      discard next
    else if named then
      if r.reports then discard sub
      mismatch
    let done := done ++ (← sub)
    if ← atSign "," then
      discard next
      classItemsOnto r sub done isNamed fuel
    else return done

/-- A name pattern: a capture, the wildcard, a dotted value or a class. -/
def namePattern (fuel : Nat) (r : Rules) (sub : SubPattern) : Parse (List Expr) := do
  if (← peek) == .name "_" true then
    discard next
    return []
  else
    let (e, dotted) ← dottedName fuel
    if ← atSign "(" then
      discard next
      let items ← classItemsOnto r sub [] false fuel
      discard (sign ")")
      return e :: items
    else if ← atSign "=" then mismatch
    else return if dotted then [e] else []

/-- A pattern without alternatives. -/
def closedPattern (fuel : Nat) (r : Rules) (sub : SubPattern) : Parse (List Expr) := do
  match ← peek with
  | .name _ _ => namePattern fuel r sub
  | .sign "(" => roundPattern fuel sub
  | .sign "[" => squarePattern fuel sub
  | .sign "\x7b" => mappingPattern fuel r sub
  | _ => literalPattern fuel r

/-- Reports on what stands in the place of a name for what a pattern matches. -/
def reportCapture (r : Rules) : Parse Unit := do
  if r.reports then
    discard (isAhead do
      discard (keyword "as")
      match ← peek with
      | .name _ _ => mismatch
      | _ => r .expression)

/-- Alternatives, perhaps with a name for what they match. -/
def patternLayer (fuel : Nat) (r : Rules) (sub : SubPattern) : Parse (List Expr) := do
  let first ← closedPattern fuel r sub
  let others ← many fuel (do discard (sign "|"); closedPattern fuel r sub)
  reportCapture r
  discard (attempt (do discard (keyword "as"); capture))
  return first ++ others.flatten

/-- A pattern, nested at most `fuel` levels deep. -/
def pattern (bound : Nat) (r : Rules) : (fuel : Nat) → Parse (List Expr)
  | 0 => mismatch
  | fuel + 1 => patternLayer bound r (pattern bound r fuel)

/-- The pattern of a `case`, which may be a sequence without brackets. -/
def casePattern (fuel : Nat) (r : Rules) : Parse (List Expr) := do
  let sub := pattern fuel r fuel
  let (first, starred) ← maybeStar sub
  if ← atSign "," then
    discard next
    match ← attempt (commaList fuel (maybeStar sub)) with
    | some (items, _) => return first ++ (items.map (·.1)).flatten
    | none => return first
  else if starred then mismatch
  else return first

end Grammar
end Python
end DeclSearch
