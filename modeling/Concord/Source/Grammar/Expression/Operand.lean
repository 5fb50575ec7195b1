import Concord.Source.Grammar.Expression.Control
import Concord.Source.Grammar.Expression.Jump
import Concord.Source.Grammar.Expression.Operator

/-!
# Operands

An operand is an atom with what completes it, calls, indices, fields and methods, after marks that change it.
-/

namespace Concord.Source.Grammar

open Concord.Source.Parser

/-- A closure comes next. -/
def startsClosure (ts : Spelling) : Bool :=
  let second := ts.dropTree
  ts.startsSign "|" || ts.startsWord "move" || (ts.startsWord "for" && second.startsGenerics) ||
    (ts.startsWord "const" && !second.startsGroup .brace) || ts.startsWord "static" ||
    (ts.startsWord "async" && (second.startsSign "|" || second.startsWord "move"))

/-- A block that runs later comes next. -/
def startsAsync (ts : Spelling) : Bool :=
  let second := ts.dropTree
  ts.startsWord "async" &&
    (second.startsGroup .brace || (second.startsWord "move" && second.dropTree.startsGroup .brace))

/-- A path comes next in an expression. -/
def startsPathExpression (ts : Spelling) : Bool :=
  startsPath ts || (ts.startsWord "try" && (ts.dropTree.startsSign "!" || ts.dropTree.startsSign "::"))

/-- An operand is completed by what comes next. -/
def startsCompletion (ts : Spelling) : Bool :=
  ts.startsGroup .parenthesis || ts.startsGroup .bracket || ts.startsSign "?" || ts.startsPoint

variable (read : Reader)

/-! ## Atoms -/

/-- Reads the values that a call passes. -/
def callValues : Speller := grouped .parenthesis (commaSpelled (expressionBy read true))

/-- Reads a field of a value that is built by its fields. A name can be the value of its field. -/
def fieldValue : Speller := do
  let front ← notes read
  let named ← next Spelling.startsIdentifier
  let name ← member
  if !named || (← next (Spelling.startsSign ":")) then
    return front ++ name ++ (← sign ":" ++ expressionBy read true)
  else return front ++ name

/-- Reads the fields of a value in at most `steps` rounds. Two points, and a value for the other fields, end them. -/
def fieldValuesWithin : Nat → Speller
  | 0 => throw .nestedTooDeeply
  | steps + 1 => do
    if ← atEnd then return []
    if ← next (Spelling.startsSign "..") then
      return (← sign ".." ++ optional (fun ts => !ts.isEmpty) (expressionBy read true))
    let field ← fieldValue read
    if ← atEnd then return field
    return field ++ (← sign "," ++ fieldValuesWithin steps)

/-- Reads a path, the invocation of a rewriting rule, or a value that is built by its fields. -/
def pathExpression (records : Bool) : Parser Reading := do
  let p ← path read true
  let ts ← peek
  if invokes p ts then invocation p
  else if records && ts.startsGroup .brace then
    return { tokens := p.spelling ++ (← grouped .brace (do fieldValuesWithin read ((← peek).length + 1))) }
  else return { tokens := p.spelling }

/-- Reads the inside of an array: elements, or an element and how often it is repeated. -/
def arrayContent : Speller := do
  if ← atEnd then return []
  let first ← expressionBy read true
  let ts ← peek
  if ts.isEmpty then return first
  else if ts.startsSign "," then return first ++ (← sign "," ++ commaSpelled (expressionBy read true))
  else if ts.startsSign ";" then return first ++ (← sign ";" ++ expressionBy read true)
  else reject [.token ",", .token ";"]

/-- Reads a parameter of a closure, with its type or without. -/
def closureParameter : Speller := do
  let front ← notes read
  let p ← read .pattern
  if ← next (Spelling.startsSign ":") then return front ++ p.tokens ++ (← sign ":" ++ typeBy read true)
  else return p.noted front

/-- Reads a closure. Its body is a block if its result has a type. -/
def closure (records : Bool) : Speller := do
  let lead ← optionalBinder read ++ optionalWord "const" ++ optionalWord "static" ++ optionalWord "async" ++
    optionalWord "move" ++ sign "|"
  let closes (ts : Spelling) := ts.startsSign "|"
  let parameters ← separated "," closes closes (closureParameter read)
  let close ← sign "|"
  let typed ← next (Spelling.startsSign "->")
  let body ← if typed then sign "->" ++ typeBy read true ++ block read else expressionBy read records
  return lead ++ spelled parameters ++ close ++ body

/-- Reads an expression that binds a pattern, up to what binds less tightly than a comparison. -/
def binding (records : Bool) : Speller :=
  word "let" ++ alternativesSpelled read ++ sign "=" ++ do return (← operation read records .comparison).tokens

/-- Reads an atom. -/
def atom (records : Bool) : Parser Reading := do
  let ts ← peek
  let plain : Speller → Parser Reading := Reading.ofSpeller
  let verbatim (p : Speller) : Parser Reading := do
    return { tokens := ← p, shape := .asWritten, opensAsWritten := true }
  if ts.startsLiteral then plain literal
  else if startsAsync ts then plain (word "async" ++ optionalWord "move" ++ block read)
  else if startsClosure ts then plain (closure read records)
  else if startsBuiltin ts then verbatim (asWritten builtin)
  else if startsPathExpression ts then pathExpression read records
  else if ts.startsGroup .parenthesis then plain (callValues read)
  else if ts.startsGroup .bracket then plain (grouped .bracket (arrayContent read))
  else if ts.startsWord "break" then plain (breakExpression read records)
  else if ts.startsWord "continue" then plain continueExpression
  else if ts.startsWord "return" then plain (valueJump read "return")
  else if ts.startsWord "yield" then plain (valueJump read "yield")
  else if ts.startsWord "become" then verbatim (tailCall read)
  else if ts.startsWord "let" then plain (binding read records)
  else if ts.startsSign ".." then range read records
  else if ts.startsWord "_" then plain (word "_")
  else
    match blockExpression? read ts with
    | some p => return { tokens := ← p, shape := .block }
    | none => reject [.expression]

/-! ## Completions -/

/-- Reads a field or a method after its point. -/
def afterPoint : Speller := do
  if ← next (Spelling.startsWord "await") then word "await"
  else
    let named ← next Spelling.startsIdentifier
    let name ← member
    if !named then return name
    let arguments ← optional (Spelling.startsSign "::") (do return (← angleArguments read).spelling)
    if !arguments.isEmpty || (← next (Spelling.startsGroup .parenthesis)) then
      return name ++ arguments ++ (← callValues read)
    else return name

/-- Reads a field or a method from its point on. -/
def fieldOrMethod : Speller := do
  let point ← sign "."
  match ← fraction? with
  | some (names, isOpen) => return point ++ names ++ (← if isOpen then afterPoint read else pure [])
  | none => return point ++ (← afterPoint read)

/-- Reads what completes an operand: a call, an index, a field, a method, or a question mark. -/
def completion : Speller := do
  let ts ← peek
  if ts.startsGroup .parenthesis then callValues read
  else if ts.startsGroup .bracket then grouped .bracket (expressionBy read true)
  else if ts.startsSign "?" then sign "?"
  else fieldOrMethod read

/-- Reads all that completes an operand. -/
def completions : Speller := do return (← repeated startsCompletion (completion read)).flatten

/-! ## Operands -/

/-- Reads the mark of a reference, to a value or to a place. -/
def referenceMark : Speller := do
  let mark ← sign "&"
  let ts ← peek
  if ts.startsWord "raw" && (ts.dropTree.startsWord "mut" || ts.dropTree.startsWord "const") then
    return mark ++ [.word (← anyWord), .word (← anyWord)]
  return mark ++ (← optionalWord "mut")

/-- Reads an operand. A range in its place has no attributes in front, and nothing completes it. -/
def operand (records : Bool) : Parser Reading := do
  let before ← peek
  let front ← notes read
  let marked (mark : Speller) : Parser Reading := do
    return { tokens := front ++ (← mark ++ spelledBy read (.operand records)) }
  let ts ← peek
  if ts.startsSign "&" then marked referenceMark
  else if ts.startsSign "*" then marked (sign "*")
  else if ts.startsSign "!" then marked (sign "!")
  else if ts.startsSign "-" then marked (sign "-")
  else
    let core ← atom read records
    if core.shape == .range then
      if front.isEmpty then return core else throw .rangeAttributes
    let after ← completions read
    if !after.isEmpty then return { tokens := front ++ core.tokens ++ after }
    else if core.shape == .asWritten then return { core with tokens := ← writtenSince before }
    else return { core with tokens := front ++ core.tokens }

/-! ## Expressions -/

/-- Reads an expression. -/
def expression (records : Bool) : Parser Reading := operation read records .least

/-- Reads an expression that stands by itself. After one that ends in a block only a point or a question mark goes on. -/
def standing : Parser Reading := do
  let front ← notes read
  match blockExpression? read (← peek) with
  | some p =>
    let tokens := front ++ (← p)
    if ← next fun ts => ts.startsPoint || ts.startsSign "?" then
      operators read true .least { tokens := tokens ++ (← completions read) }
    else return { tokens, shape := .block }
  | none =>
    let first ← read (.operand true)
    operators read true .least { first with tokens := first.noted front }

end Concord.Source.Grammar
