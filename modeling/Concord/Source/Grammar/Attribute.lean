import Concord.Source.Grammar.Path

/-!
# Attributes

An attribute is a path in square brackets after a number sign, with a group of tokens, a value, or nothing after the path.
It belongs to what comes after it, or with an exclamation mark to what it stands in.
-/

namespace Concord.Source

/-- What follows the path of an attribute. -/
inductive AttributeArguments where
  | nothing
  | group (delimiter : Delimiter) (content : Spelling)
  | value (expression : Spelling)
  deriving Repr

/-- An attribute. -/
structure Attribute where
  path : NamePath
  arguments : AttributeArguments
  deriving Repr

namespace Attribute

/-- The brackets of an attribute. -/
def content (a : Attribute) : Token :=
  .brackets (a.path.spelling ++
    match a.arguments with
    | .nothing => []
    | .group d content => [.group d content]
    | .value e => Spelling.sign "=" ++ e)

def spelling (a : Attribute) : Spelling := Spelling.sign "#" ++ [a.content]

end Attribute

namespace Grammar

open Concord.Source.Parser

variable (read : Reader)

/-- Reads a literal after which nothing comes. -/
def lastLiteral : Speller := do
  let value ← literal
  if ← atEnd then return value else reject []

/-- Reads the value of an attribute. It is a literal if nothing comes after that, and no attribute can be in front of it. -/
def attributeValue : Speller := do
  if let some value ← attempt lastLiteral then return value
  let ts ← peek
  if ts.startsSign "#" && ts.dropTree.startsGroup .bracket then throw .attributeInAttribute
  expressionBy read true

/-- Reads what follows the path of an attribute. -/
def attributeArguments : Parser AttributeArguments := do
  match ← peek with
  | .group d content :: _ =>
    skip 1
    return .group d content
  | ts =>
    if ts.startsSign "=" && !ts.startsSign "==" && !ts.startsSign "=>" then
      let _ ← sign "="
      return .value (← attributeValue read)
    else return .nothing

/-- Reads the inside of an attribute. -/
def attributeBody : Parser Attribute := do
  let path ← if ← next (Spelling.startsWord "unsafe") then
      let name ← anyWord
      pure ⟨false, [name]⟩
    else namePath
  return { path, arguments := ← attributeArguments read }

/-- Reads an attribute of what comes after it. -/
def oneAttribute : Parser Attribute := do
  let _ ← sign "#"
  group .bracket (attributeBody read)

/-- Reads the attributes of what comes after them. -/
def attributes : Parser (List Attribute) := repeated (Spelling.startsSign "#") (oneAttribute read)

/-- Reads attributes and spells them. -/
def notes : Speller := do return (← attributes read).flatMap Attribute.spelling

/-- An attribute of what it stands in comes next. -/
def startsInner (ts : Spelling) : Bool := ts.startsSign "#" && ts.dropTree.startsSign "!"

/-- Reads attributes of what they stand in and spells them. -/
def innerNotes : Speller := do
  let inner := do
    let lead ← sign "#" ++ sign "!"
    let a ← group .bracket (attributeBody read)
    return lead ++ [a.content]
  return (← repeated startsInner inner).flatten

end Grammar

end Concord.Source
