import Concord.Source.Grammar.Attribute

/-!
# Bounds

A bound on a type is a lifetime, a list of captured parameters, or a trait; a trait can have a binder of generic
parameters, be optional, be meant for constants, and stand in parentheses. Bounds are joined by plus signs.
-/

namespace Concord.Source.Grammar

open Concord.Source.Parser

/-- Where bounds stand, as far as it decides which of them can be there. -/
structure BoundPlace where
  /-- Captured parameters can be listed. -/
  captures : Bool := false
  /-- A trait can be meant for constants. -/
  constants : Bool := false
  deriving DecidableEq, Repr

/-- The bounds of a parameter or a condition, where traits can be meant for constants. -/
def BoundPlace.declared : BoundPlace := { constants := true }

/-- The list of generic parameters ends here. -/
def closesAngle (ts : Spelling) : Bool := ts.startsSign ">"

/-- No plus sign is next. -/
def lacksPlus (ts : Spelling) : Bool := !ts.startsSign "+"

variable (read : Reader)

/-- Reads a binder of generic parameters, which keep their order. -/
def binder : Speller := do
  let start ← word "for" ++ sign "<"
  let parameters ← separated "," closesAngle closesAngle (spelledBy read .parameter)
  return start ++ spelled parameters ++ (← sign ">")

/-- Reads a binder of generic parameters if there is one. -/
def optionalBinder : Speller := optional (Spelling.startsWord "for") (binder read)

/-- Reads the mark of a trait that is meant for constants, with brackets or without. -/
def constantMark (place : BoundPlace) : Speller := do
  let bracketed ← next (Spelling.startsGroup .bracket)
  let mark ← if bracketed then grouped .bracket (word "const") else optionalWord "const"
  if !mark.isEmpty && !place.constants then throw (.constNotAllowed bracketed)
  return mark

/-- Reads a trait with its modifiers, and says whether it is meant for constants. A binder stands in front, or after the
mark of an optional trait, and an optional trait can have none. -/
def traitBound (place : BoundPlace) : Parser (Bool × Spelling) := do
  let early ← optionalBinder read
  let constant ← constantMark place
  let modifier ← optionalSign "?"
  let binders ← if early.isEmpty && !modifier.isEmpty then optionalBinder read else pure early
  let name ← withCallArguments read (← plainPath read false)
  if !binders.isEmpty && !modifier.isEmpty then throw .binderOnOptional
  return (!constant.isEmpty, binders ++ constant ++ modifier ++ name.spelling)

/-- Reads a captured parameter, up to a comma or the end of the list. -/
def captured : Speller := do
  let ts ← peek
  let name ← if ts.startsLifetime then lifetime
    else if ts.startsIdentifier || ts.startsWord "Self" then do
      let name ← anyWord
      pure [.word name]
    else reject [.lifetime, .identifier, .token ">"]
  let ts ← peek
  if ts.startsSign "," || ts.startsSign ">" then return name else reject [.token ",", .token ">"]

/-- Reads a list of captured parameters. -/
def capture : Speller := do
  let start ← word "use" ++ sign "<"
  let names ← separated "," closesAngle closesAngle captured
  return start ++ spelled names ++ (← sign ">")

/-- Reads one bound. A trait meant for constants stays as it is written. -/
def bound (place : BoundPlace) : Speller := do
  let before ← peek
  if before.startsLifetime then lifetime
  else if before.startsWord "use" then
    let names ← capture
    if place.captures then return names else throw .captureNotAllowed
  else
    let (constant, tokens) ← if before.startsGroup .parenthesis then do
        let (constant, inner) ← group .parenthesis (traitBound read place)
        pure (constant, [.parens inner])
      else traitBound read place
    if constant then writtenSince before else return tokens

/-- A bound can start here, after a plus sign. -/
def startsBound (place : BoundPlace) (ts : Spelling) : Bool :=
  ts.startsAnyWord || ts.startsSign "::" || ts.startsSign "?" || ts.startsLifetime || ts.startsGroup .parenthesis ||
    (place.constants && ts.startsGroup .bracket)

/-- Reads more bounds, each after a plus sign. A plus sign that no bound follows is the last. -/
def moreBounds (place : BoundPlace) : Parser (List (Spelling × Spelling)) := do
  if ← next (Spelling.startsSign "+") then
    let plus ← sign "+"
    let others ← separated "+" (fun ts => !startsBound place ts) lacksPlus (bound read place)
    return ([], plus) :: others
  else return []

/-- Reads at least one bound, and more of them if plus signs can join them here. -/
def bounds (plus : Bool) (place : BoundPlace) : Parser (List (Spelling × Spelling)) := do
  let first ← bound read place
  let others ← if plus then moreBounds read place else pure []
  return (first, []) :: others

/-- Reads any number of bounds up to what stops them, or up to where no plus sign is next. -/
def boundsUpTo (stop : Spelling → Bool) (place : BoundPlace) : Speller := do
  return spelled (← separated "+" stop lacksPlus (bound read place))

/-- Reads any number of bounds, which only what stops them can end. -/
def boundsOnlyTo (stop : Spelling → Bool) (place : BoundPlace) : Speller := do
  return spelled (← separated "+" stop stop (bound read place))

/-- A bound that names a trait, among the items of a list of bounds. -/
def isTrait (item : Spelling × Spelling) : Bool :=
  !item.1.isEmpty && !item.1.startsLifetime && !item.1.startsWord "use"

end Concord.Source.Grammar
