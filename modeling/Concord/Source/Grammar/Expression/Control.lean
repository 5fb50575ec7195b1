import Concord.Source.Grammar.Pattern

/-!
# Blocks and control flow

Blocks of several kinds, conditions, loops and matches. Each ends in a block of its own, so that nothing needs to end it
as a statement or in an arm.
-/

namespace Concord.Source.Grammar

open Concord.Source.Parser

/-- Reads a label before a loop or a block. -/
def label : Speller := lifetime ++ sign ":"

variable (read : Reader)

/-- Reads a block that can have attributes of its own inside. -/
def innerBlock : Speller := blockBy read (innerNotes read)

/-- Reads a condition with its blocks, in at most `steps` rounds. -/
def ifWithin : Nat → Speller
  | 0 => throw .nestedTooDeeply
  | steps + 1 =>
    word "if" ++ expressionBy read false ++ block read ++
      optional (Spelling.startsWord "else") (word "else" ++
        choose [(.token "if", Spelling.startsWord "if", ifWithin steps),
          (.group .brace, Spelling.startsGroup .brace, block read)])

/-- Reads a condition with its blocks. -/
def ifExpression : Speller := do ifWithin read ((← peek).length + 1)

/-- Reads a loop with a condition. -/
def whileLoop : Speller := word "while" ++ expressionBy read false ++ innerBlock read

/-- Reads a loop over elements. -/
def forLoop : Speller :=
  word "for" ++ alternativesSpelled read ++ word "in" ++ expressionBy read false ++ innerBlock read

/-- Reads a loop without condition. -/
def endlessLoop : Speller := word "loop" ++ innerBlock read

/-- Reads one arm of a match. A comma ends it, unless it is the last or ends in a block. -/
def arm : Speller := do
  let front ← notes read ++ alternativesSpelled read
  let guard ← optional (Spelling.startsWord "if") (word "if" ++ expressionBy read true)
  let arrow ← sign "=>"
  let body ← read .standing
  let isEnded ← if body.shape == .block then pure true else atEnd
  return front ++ guard ++ arrow ++ body.tokens ++ (← if isEnded then optionalSign "," else sign ",")

/-- Reads a match. -/
def matchExpression : Speller :=
  word "match" ++ expressionBy read false ++
    grouped .brace (innerNotes read ++ do return (← repeated (fun ts => !ts.isEmpty) (arm read)).flatten)

/-- Reads a loop or a block after a label. -/
def labelled : Speller :=
  label ++ do
    let ts ← peek
    if ts.startsWord "while" then whileLoop read
    else if ts.startsWord "for" then forLoop read
    else if ts.startsWord "loop" then endlessLoop read
    else if ts.startsGroup .brace then innerBlock read
    else reject [.loopOrBlock]

/-- The reader of an expression that ends in a block of its own, if one comes next. -/
def blockExpression? (ts : Spelling) : Option Speller :=
  let inBraces := ts.dropTree.startsGroup .brace
  if ts.startsWord "if" then some (ifExpression read)
  else if ts.startsWord "while" then some (whileLoop read)
  else if ts.startsWord "for" && !ts.dropTree.startsGenerics then some (forLoop read)
  else if ts.startsWord "loop" then some (endlessLoop read)
  else if ts.startsWord "match" then some (matchExpression read)
  else if ts.startsWord "try" && inBraces then some (word "try" ++ block read)
  else if ts.startsWord "unsafe" then some (word "unsafe" ++ innerBlock read)
  else if ts.startsWord "const" && inBraces then some (word "const" ++ innerBlock read)
  else if ts.startsGroup .brace then some (innerBlock read)
  else if ts.startsLifetime then some (labelled read)
  else none

end Concord.Source.Grammar
