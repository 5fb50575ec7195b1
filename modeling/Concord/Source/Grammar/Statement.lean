import Concord.Source.Grammar.Expression.Operand
import Concord.Source.Grammar.Item

/-!
# Statements

A block holds declarations of local names, items and expressions. An expression that does not end in a block of its own
needs a semicolon, unless it is the last.
-/

namespace Concord.Source.Grammar

open Concord.Source.Parser

/-- What follows a path of bare names, if one comes next. -/
def afterPath? (ts : Spelling) : Option Spelling :=
  match namePath.run ts with
  | .ok a => some a.rest
  | .error _ => none

/-- An item comes next, in the place of a statement. -/
def startsItem (ts : Spelling) : Bool :=
  let second := ts.dropTree
  let third := second.dropTree
  let heads := ["unsafe", "extern", "fn"]
  ["pub", "extern", "use", "fn", "mod", "type", "struct", "enum", "trait", "impl", "macro"].any ts.startsWord ||
    (ts.startsWord "crate" && !second.startsSign "::") ||
    (ts.startsWord "static" && (second.startsWord "mut" || second.startsIdentifier)) ||
    (ts.startsWord "const" &&
      !(second.startsGroup .brace || second.startsWord "static" || second.startsWord "move" || second.startsSign "|" ||
        (second.startsWord "async" && !heads.any third.startsWord))) ||
    (ts.startsWord "unsafe" && !second.startsGroup .brace) ||
    (ts.startsWord "async" && heads.any second.startsWord) ||
    (ts.startsWord "union" && second.startsIdentifier) ||
    startsAutoTrait ts ||
    (ts.startsWord "default" && (second.startsWord "unsafe" || second.startsWord "impl"))

/-- How the invocation of a rewriting rule stands in the place of a statement. -/
inductive RuleStatement where
  /-- It declares something by a name. -/
  | item
  /-- Its arguments are in braces, and nothing goes on with it. -/
  | complete
  deriving Repr

/-- The invocation of a rewriting rule that comes next and is more than an expression. -/
def ruleStatement? (ts : Spelling) : Option RuleStatement := do
  let after ← afterPath? ts
  let second := after.dropTree
  let third := second.dropTree
  if !after.startsSign "!" then none
  else if second.startsIdentifier || second.startsWord "try" then some .item
  else if second.startsGroup .brace && !third.startsPoint && !third.startsSign "?" then some .complete
  else none

/-- The last token is a block. -/
def endsInBrace (ts : Spelling) : Bool := ts.getLast?.any fun t => Spelling.startsGroup .brace [t]

variable (read : Reader)

/-- Reads the value of a local name. It can go with a block for when it does not fit, unless it ends in a block. -/
def localValue : Speller := do
  let value ← sign "=" ++ expressionBy read true
  let fails (ts : Spelling) := !endsInBrace value && ts.startsWord "else"
  return value ++ (← optional fails (word "else" ++ block read))

/-- Reads a declaration of local names. -/
def localStatement : Speller :=
  word "let" ++ spelledBy read .pattern ++ optional (Spelling.startsSign ":") (sign ":" ++ typeBy read true) ++
    optional (Spelling.startsSign "=") (localValue read) ++ sign ";"

/-- Reads an expression as a statement after its attributes, and says whether it is complete. -/
def expressionStatement (front : Spelling) : Parser (Bool × Spelling) := do
  let e ← read .standing
  let close ← optionalSign ";"
  return (!close.isEmpty || e.shape == .block || e.shape == .invocation true, e.noted front ++ close)

/-- Reads a statement, and says whether it is complete. -/
def statement : Parser (Bool × Spelling) := do
  let before ← peek
  let front ← notes read
  let ts ← peek
  match ruleStatement? ts with
  | some .item => return (true, ← itemAfter read before front)
  | some .complete =>
    let path ← namePath
    return (true, front ++ path.spelling ++ (← sign "!" ++ anyGroup ++ optionalSign ";"))
  | none =>
    if ts.startsWord "let" then return (true, front ++ (← localStatement read))
    else if startsItem ts then return (true, ← itemAfter read before front)
    else expressionStatement read front

/-- Reads statements up to the end of a block, in at most `steps` rounds. -/
def statementsWithin : Nat → Speller
  | 0 => throw .nestedTooDeeply
  | steps + 1 => do
    if ← next (Spelling.startsSign ";") then sign ";" ++ statementsWithin steps
    else if ← atEnd then return []
    else
      let (isComplete, tokens) ← statement read
      if ← atEnd then return tokens
      if !isComplete then throw .statementNotEnded
      return tokens ++ (← statementsWithin steps)

/-- Reads the statements of a block. -/
def statements : Speller := do statementsWithin read ((← peek).length + 1)

end Concord.Source.Grammar
