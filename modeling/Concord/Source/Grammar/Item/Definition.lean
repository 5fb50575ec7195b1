import Concord.Source.Grammar.Item.Signature

/-!
# Definitions of functions, constants and types

What can be defined by itself, in a trait, in an implementation and among foreign items. The places differ in which parts
can be there, and a definition with other parts stays as it is written.
-/

namespace Concord.Source.Grammar

open Concord.Source.Parser

/-- A definition of a constant or of a type. -/
structure Definition where
  tokens : Spelling
  /-- There are generic parameters or conditions, possibly none in number. -/
  isGeneric : Bool := false
  /-- There is a colon for bounds. -/
  isBounded : Bool := false
  /-- There is a value. -/
  isDefined : Bool
  deriving Repr

/-- Where the conditions of a type definition can stand. -/
inductive ConditionPlace where
  | beforeValue
  | afterValue
  | either
  deriving DecidableEq, Repr

/-- What can name a constant, in the order in which it is looked for. -/
def constantNames : List Sought := [.identifier, .token "_"]

/-- The name of a constant comes next. -/
def startsConstantName (ts : Spelling) : Bool := ts.startsIdentifier || ts.startsWord "_"

variable (read : Reader)

/-- Reads a constant from its name on. -/
def constantDefinition : Parser Definition := do
  let label ← anyWord
  let angled ← next (Spelling.startsSign "<")
  let head ← generics read ++ sign ":" ++ typeBy read true
  let value ← optional (Spelling.startsSign "=") (sign "=" ++ expressionBy read true)
  let conditional ← next startsConditions
  let tail ← optionalConditions read ++ sign ";"
  return {
    tokens := .word label :: head ++ value ++ tail
    isGeneric := angled || conditional
    isDefined := !value.isEmpty }

/-- Reads a type from its keyword on. -/
def typeDefinition (place : ConditionPlace) : Parser Definition := do
  let head ← word "type" ++ name ++ generics read
  let isBounded ← next (Spelling.startsSign ":")
  let stop (ts : Spelling) := startsConditions ts || ts.startsSign "=" || ts.startsSign ";"
  let limits ← colonBounds (boundsOnlyTo read stop .declared)
  let early ← next startsConditions
  let before ← if place != .afterValue then optionalConditions read else pure []
  let value ← optional (Spelling.startsSign "=") (sign "=" ++ typeBy read true)
  let late := place == .afterValue || (place == .either && !early)
  let after ← if late then optionalConditions read else pure []
  let close ← sign ";"
  return { tokens := head ++ limits ++ before ++ value ++ after ++ close, isBounded, isDefined := !value.isEmpty }

/-- Reads the path of a rewriting rule and what invokes it, with a name or without. A semicolon ends it unless its
arguments are in braces. -/
def ruleItem (named : Bool) : Speller := do
  let path ← namePath
  let bang ← sign "!"
  let label ← if named then
      do if ← next (Spelling.startsWord "try") then word "try" else optional Spelling.startsIdentifier name
    else pure []
  let (braced, arguments) ← ruleArguments
  return path.spelling ++ bang ++ label ++ arguments ++ (← if braced then pure [] else sign ";")

/-- The path of a rewriting rule can start here, where an item can. -/
def startsRule (ts : Spelling) : Bool := ts.startsIdentifier || startsScope ts || ts.startsSign "::"

/-- What the path of a rewriting rule can start with, in the order in which it is looked for. -/
def ruleStarts : List Sought := [.identifier, .token "self", .token "super", .token "crate", .token "::"]

/-- Refuses since none of what is looked for is at a place further on. -/
def rejectAt {α : Type} (ts : Spelling) (sought : List Sought) : Parser α := throw (.expected ts.isEmpty sought)

/-- The body of a function: its statements after attributes of the function. -/
def functionBody : Speller := blockBy read (innerNotes read)

end Concord.Source.Grammar
