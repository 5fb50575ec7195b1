import Concord.Source.Grammar.Bound

/-!
# Generic parameters and conditions on them

A parameter is a lifetime, a type or a constant. A list of parameters is spelled with the lifetimes in front, and neither
an empty list nor a colon without bounds nor a `where` without conditions is spelled at all.
-/

namespace Concord.Source.Grammar

open Concord.Source.Parser

/-- The list of generic parameters or one of them ends here. -/
def endsParameter (ts : Spelling) : Bool := ts.isEmpty || ts.startsSign "," || ts.startsSign ">"

/-- A condition on parameters ends here. -/
def endsCondition (ts : Spelling) : Bool :=
  ts.isEmpty || ts.startsGroup .brace || ts.startsSign "," || ts.startsSign ";" || ts.startsColon || ts.startsSign "="

/-- Reads lifetimes joined by plus signs, up to what stops them. -/
def lifetimesUpTo (stop : Spelling → Bool) : Speller := do
  return spelled (← separated "+" stop lacksPlus lifetime)

/-- Reads a colon and the bounds after it. A colon without bounds is dropped. -/
def colonBounds (bounds : Speller) : Speller := do
  if ← next (Spelling.startsSign ":") then
    let colon ← sign ":"
    let tokens ← bounds
    return if tokens.isEmpty then [] else colon ++ tokens
  else return []

/-- Reads a lifetime as a parameter. -/
def lifetimeParameter : Speller := lifetime ++ colonBounds (lifetimesUpTo endsParameter)

variable (read : Reader)

/-- Reads a constant that stands for a parameter: a literal, a name, or a block. -/
def constant : Speller := do
  let ts ← peek
  if ts.startsLiteral then literal
  else if ts.startsIdentifier then return [.word (← identifier)]
  else if ts.startsGroup .brace then blockBy read (innerNotes read)
  else reject []

/-- Reads a type as a parameter. -/
def typeParameter : Speller := do
  let name ← identifier
  let limits ← colonBounds (boundsUpTo read (fun ts => endsParameter ts || ts.startsSign "=") .declared)
  return .word name :: limits ++ (← optional (Spelling.startsSign "=") (sign "=" ++ typeBy read true))

/-- Reads a constant as a parameter. -/
def constantParameter : Speller := do
  let start ← word "const"
  let name ← identifier
  return start ++ .word name ::
    (← sign ":" ++ typeBy read true ++ optional (Spelling.startsSign "=") (sign "=" ++ constant read))

/-- Reads one parameter of a binder. -/
def boundParameter : Speller :=
  notes read ++
    choose [(.identifier, Spelling.startsIdentifier, typeParameter read),
      (.lifetime, Spelling.startsLifetime, lifetimeParameter),
      (.token "const", Spelling.startsWord "const", constantParameter read)]

/-- Reads one generic parameter of a declaration, and says whether it is a lifetime. An underscore can be one. -/
def declaredParameter : Parser (Bool × Spelling) := do
  let front ← notes read
  let ts ← peek
  if ts.startsLifetime then return (true, front ++ (← lifetimeParameter))
  else if ts.startsIdentifier then return (false, front ++ (← typeParameter read))
  else if ts.startsWord "const" then return (false, front ++ (← constantParameter read))
  else if ts.startsWord "_" then return (false, front ++ (← word "_"))
  else reject [.lifetime, .identifier, .token "const"]

/-- Reads generic parameters, if there are any. -/
def generics : Speller := do
  if ← next (Spelling.startsSign "<") then
    let less ← sign "<"
    let parameters ← separated "," closesAngle closesAngle (declaredParameter read)
    let greater ← sign ">"
    return if parameters.isEmpty then [] else less ++ arrange parameters ++ greater
  else return []

/-- Reads one condition on parameters. -/
def condition : Speller := do
  let ts ← peek
  if ts.startsLifetime && ts.dropTree.startsSign ":" then
    lifetime ++ sign ":" ++ lifetimesUpTo fun ts => endsCondition ts || ts.startsSign ":"
  else
    optionalBinder read ++ typeBy read true ++ sign ":" ++ boundsUpTo read endsCondition .declared

/-- Reads conditions on parameters. -/
def conditions : Speller := do
  let start ← word "where"
  if ← next Spelling.startsGenerics then throw .genericConditions
  let items ← separated "," endsCondition (fun ts => !ts.startsSign ",") (condition read)
  return if items.isEmpty then [] else start ++ spelled items

/-- Conditions on parameters come next. -/
def startsConditions (ts : Spelling) : Bool := ts.startsWord "where"

/-- Reads conditions on parameters, if there are any. -/
def optionalConditions : Speller := optional startsConditions (conditions read)

end Concord.Source.Grammar
