import Concord.Source.Grammar.Item.Definition

/-!
# Items of traits, implementations and foreign blocks

Functions, constants, types and invocations of rewriting rules inside another item. One with parts that its place does not
provide for stays as it is written.
-/

namespace Concord.Source.Grammar

open Concord.Source.Parser

variable (read : Reader)

/-- Reads an item inside another by its rule, which is given the attributes in front of it and answers nothing if the item
stays as it is written. -/
def innerItem (rule : Parser (Option Spelling)) : Speller := do
  let before ← peek
  let front ← notes read
  match ← rule with
  | some tokens => return front ++ tokens
  | none => writtenSince before

/-- Reads items inside another, in braces after attributes of that. -/
def innerItems (item : Speller) : Speller :=
  grouped .brace (innerNotes read ++ do return (← repeated (fun ts => !ts.isEmpty) item).flatten)

/-! ## Traits -/

/-- Reads a function of a trait, with a body or without. -/
def traitFunction : Speller := do
  let (_, head) ← signature read false
  return head ++ (← choose [(.group .brace, Spelling.startsGroup .brace, functionBody read),
    (.token ";", fun ts => ts.startsSign ";", sign ";")])

/-- Reads a constant of a trait from its keyword on, and says whether it has no parts that it cannot have. -/
def traitConstant : Parser (Bool × Spelling) := do
  let ts : Spelling := (← peek).drop 1
  if startsConstantName ts then
    let start ← word "const"
    let d ← constantDefinition read
    return (!d.isGeneric, start ++ d.tokens)
  else if ["async", "unsafe", "extern", "fn"].any ts.startsWord then return (true, ← traitFunction read)
  else rejectAt ts (constantNames ++ [.token "async", .token "unsafe", .token "extern", .token "fn"])

/-- Reads an item of a trait. One with a visibility or the modifier `default` stays as it is written. -/
def traitItem : Speller :=
  innerItem read do
    let modifiers ← visibility ++ optionalWord "default"
    let ts ← peek
    let (isPlain, tokens) ←
      if startsSignature false ts then do pure (true, ← traitFunction read)
      else if ts.startsWord "const" then traitConstant read
      else if ts.startsWord "type" then do pure (true, (← typeDefinition read .afterValue).tokens)
      else if modifiers.isEmpty && startsRule ts then do pure (true, ← ruleItem false)
      else reject ([.token "fn", .token "const", .token "type"] ++ if modifiers.isEmpty then ruleStarts else [])
    return if isPlain && modifiers.isEmpty then some tokens else none

/-! ## Implementations -/

/-- Reads an item of an implementation. A function without body, a constant without value, and a type without value or
with bounds stay as they are written. -/
def implementationItem : Speller :=
  innerItem read do
    let shown ← visibility
    let ts ← peek
    let isDefault := ts.startsWord "default" && !ts.dropTree.startsSign "!"
    let modifiers ← pure shown ++ if isDefault then word "default" else pure []
    let ts ← peek
    let sought : List Sought := [.token "fn", .token "const", .token "type"]
    if startsSignature false ts then
      let (_, head) ← signature read false
      if ← next (Spelling.startsSign ";") then
        let _ ← sign ";"
        return none
      return some (modifiers ++ head ++ (← functionBody read))
    else if ts.startsWord "const" then
      let start ← word "const"
      if !(← next startsConstantName) then reject constantNames
      let d ← constantDefinition read
      return if d.isDefined && !d.isGeneric then some (modifiers ++ start ++ d.tokens) else none
    else if ts.startsWord "type" then
      let d ← typeDefinition read .afterValue
      return if d.isDefined && !d.isBounded then some (modifiers ++ d.tokens) else none
    else if modifiers.isEmpty && startsRule ts then return some (← ruleItem false)
    else if isDefault then reject sought
    else
      reject ((if ts.startsWord "default" then [] else [.token "default"]) ++ sought ++
        if modifiers.isEmpty then ruleStarts else [])

/-! ## Foreign items -/

/-- Reads a static variable among foreign items from its modifiers on, and says whether it has no parts that it cannot
have. -/
def foreignStatic : Parser (Bool × Spelling) := do
  let guard ← optionalWord "unsafe"
  let safe ← if guard.isEmpty then optionalWord "safe" else pure []
  let head ← word "static" ++ optionalWord "mut" ++ name ++ sign ":" ++ typeBy read true
  let value ← optional (Spelling.startsSign "=") (sign "=" ++ expressionBy read true)
  let close ← sign ";"
  return (guard.isEmpty && safe.isEmpty && value.isEmpty, head ++ close)

/-- Reads a foreign item. One that is marked as safe, or has a body or a value, stays as it is written. -/
def foreignItem : Speller :=
  innerItem read do
    let shown ← visibility
    let ts ← peek
    if startsSignature true ts then
      let (isSafe, head) ← signature read true
      if ← next (Spelling.startsGroup .brace) then
        let _ ← functionBody read
        return none
      let close ← sign ";"
      return if isSafe then none else some (shown ++ head ++ close)
    else if ts.startsWord "static" ||
        ((ts.startsWord "unsafe" || ts.startsWord "safe") && ts.dropTree.startsWord "static") then
      let (isPlain, tokens) ← foreignStatic read
      return if isPlain then some (shown ++ tokens) else none
    else if ts.startsWord "type" then
      let d ← typeDefinition read .either
      return if d.isDefined || d.isBounded then none else some (shown ++ d.tokens)
    else if shown.isEmpty && startsRule ts then return some (← ruleItem false)
    else reject ([.token "fn", .token "static", .token "type"] ++ if shown.isEmpty then ruleStarts else [])

end Concord.Source.Grammar
