import Concord.Source.Grammar.Item.Associated

/-!
# Traits and implementations

A trait with its bounds and its items or as another name for bounds, and an implementation of a trait or of a type's own
items.
-/

namespace Concord.Source.Grammar

open Concord.Source.Parser

variable (read : Reader)

/-! ## Traits -/

/-- Reads the rest of a trait: the traits that it builds on, conditions, and items. -/
def traitBody : Speller := do
  let stop (ts : Spelling) := startsConditions ts || ts.startsGroup .brace
  colonBounds (boundsOnlyTo read stop .declared) ++ optionalConditions read ++ innerItems read (traitItem read)

/-- Reads the rest of another name for bounds. -/
def boundsAlias : Speller := do
  let stop (ts : Spelling) := startsConditions ts || ts.startsSign ";"
  sign "=" ++ boundsOnlyTo read stop .declared ++ optionalConditions read ++ sign ";"

/-- Reads a trait with modifiers from these on. -/
def modifiedTrait : Speller :=
  optionalWord "unsafe" ++ optionalWord "auto" ++ word "trait" ++ name ++ generics read ++ traitBody read

/-- Reads a trait without modifiers from its keyword on, or another name for bounds. -/
def plainTrait : Speller :=
  word "trait" ++ name ++ generics read ++
    choose [(.group .brace, Spelling.startsGroup .brace, traitBody read),
      (.token ":", fun ts => ts.startsSign ":", traitBody read),
      (.token "where", startsConditions, traitBody read),
      (.token "=", fun ts => ts.startsSign "=", boundsAlias read)]

/-! ## Implementations -/

/-- Reads the mark of an implementation that is meant for constants. -/
def constantImplementation : Speller :=
  optional (fun ts => ts.startsWord "const" || (ts.startsSign "?" && ts.dropTree.startsWord "const"))
    (optionalSign "?" ++ word "const")

/-- Reads an implementation after its visibility, and answers nothing if it stays as it is written: it has a visibility,
is meant for constants, or is for something that is not named by a path. -/
def implementation (isShown : Bool) : Parser (Option Spelling) := do
  let start ← optionalWord "default" ++ optionalWord "unsafe" ++ word "impl" ++
    optional Spelling.startsGenerics (generics read)
  let constant ← constantImplementation
  let negative ← optional (fun ts => ts.startsSign "!" && !ts.dropTree.startsGroup .brace) (sign "!")
  let first ← read (.type true)
  let isFor ← next (Spelling.startsWord "for")
  if !isFor && !negative.isEmpty then throw .negativeInherent
  let target ← if isFor then word "for" ++ typeBy read true else pure []
  let rest ← optionalConditions read ++ innerItems read (implementationItem read)
  let isPath := first.shape == .name || first.shape == .path
  return if isShown || !constant.isEmpty || (isFor && !isPath) then none
    else some (start ++ negative ++ first.tokens ++ target ++ rest)

end Concord.Source.Grammar
