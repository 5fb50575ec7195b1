import Concord.Source.Grammar.Field

/-!
# Imports

What is imported is a path, all that is under a path, or a group of these, and can get another name. A group that holds a
path with a double colon in front stays as it is written, with all around it.
-/

namespace Concord.Source.Grammar

open Concord.Source.Parser

/-- Reads the name that what is imported gets. -/
def importName : Speller := do
  let ts ← peek
  if ts.startsIdentifier then name
  else if ts.startsWord "_" then word "_"
  else reject [.identifierOrUnderscore]

/-- What an import can start with, in the order in which it is looked for. -/
def importStarts : List Sought :=
  [.identifier, .token "self", .token "super", .token "crate", .token "try", .token "*", .group .brace]

variable (read : Reader)

/-- Reads an import that can have a double colon in front of it. One that has it stays as it is written. -/
def groupedImport (rooted : Bool) : Parser Reading := do
  let root ← if rooted then optionalSign "::" else pure []
  let tree ← read (.imports (rooted && root.isEmpty))
  return if root.isEmpty then tree else { tree with shape := .asWritten }

/-- Reads what is imported. -/
def imports (rooted : Bool) : Parser Reading := do
  let ts ← peek
  if startsScope ts || ts.startsIdentifier || ts.startsWord "try" then
    let start ← anyWord
    let ts ← peek
    if ts.startsSign "::" then
      return { tokens := .word start :: (← sign "::" ++ spelledBy read (.imports false)) }
    else return { tokens := .word start :: (← optional (Spelling.startsWord "as") (word "as" ++ importName)) }
  else if ts.startsSign "*" then return { tokens := ← sign "*" }
  else if ts.startsGroup .brace then
    let trees ← group .brace (separated "," List.isEmpty List.isEmpty (groupedImport read rooted))
    let tokens := [.braces (spelled (trees.map fun (tree, comma) => (tree.tokens, comma)))]
    return { tokens, shape := if trees.any (·.1.shape == .asWritten) then .asWritten else .other }
  else reject importStarts

/-- Reads a declaration of imports from its keyword on, and answers nothing if it stays as it is written. -/
def importItem : Parser (Option Spelling) := do
  let start ← word "use" ++ optionalSign "::"
  let tree ← read (.imports (start.length == 1))
  let close ← sign ";"
  return if tree.shape == .asWritten then none else some (start ++ tree.tokens ++ close)

end Concord.Source.Grammar
