import Concord.Source.Grammar.Type

/-!
# Jumps

Expressions that leave what they stand in, with a label, with a value, or with neither.
-/

namespace Concord.Source.Grammar

open Concord.Source.Parser

/-- An expression can start here, as the value of a jump. -/
def startsValue (ts : Spelling) : Bool :=
  (ts.startsAnyWord && !ts.startsWord "as") || ts.startsGroup .parenthesis || ts.startsGroup .bracket ||
    ts.startsGroup .brace || ts.startsLiteral || ts.startsBang ||
    (ts.startsSign "-" && !ts.startsSign "-=" && !ts.startsSign "->") || (ts.startsSign "*" && !ts.startsSign "*=") ||
    (ts.startsSign "|" && !ts.startsSign "|=") || (ts.startsSign "&" && !ts.startsSign "&=") || ts.startsSign ".." ||
    (ts.startsSign "<" && !ts.startsSign "<=" && !ts.startsSign "<<=") || ts.startsSign "::" || ts.startsLifetime ||
    ts.startsSign "#"

variable (read : Reader)

/-- Reads a jump out of a loop or a block, whose value can be a block only where braces belong to the expression. A
labelled loop or block is no value without parentheses. -/
def breakExpression (records : Bool) : Speller := do
  let start ← word "break"
  let ts ← peek
  if ts.startsLifetime && ts.dropTree.startsSign ":" then
    let _ ← expressionBy read true
    throw .parenthesesRequired
  let label ← optional Spelling.startsLifetime lifetime
  let hasValue (ts : Spelling) := startsValue ts && (records || !ts.startsGroup .brace)
  return start ++ label ++ (← optional hasValue (expressionBy read true))

/-- Reads a jump to the next round of a loop. -/
def continueExpression : Speller := word "continue" ++ optional Spelling.startsLifetime lifetime

/-- Reads a jump by a word with a value or without. -/
def valueJump (s : String) : Speller := word s ++ optional startsValue (expressionBy read true)

/-- Reads a call that takes the place of the function it stands in. It stays as it is written. -/
def tailCall : Speller := asWritten (word "become" ++ expressionBy read true)

end Concord.Source.Grammar
