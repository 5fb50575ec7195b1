import Concord.Source.Grammar.Item.Implementation
import Concord.Source.Grammar.Item.Import

/-!
# Items

What a module or a block can declare. The rule for an item is chosen after its visibility; an item with parts that its
rule does not provide for stays as it is written.
-/

namespace Concord.Source.Grammar

open Concord.Source.Parser

variable (read : Reader)

/-- Reads a function after its visibility. One without a body stays as it is written. -/
def functionItem : Parser (Option Spelling) := do
  let (_, head) ← signature read false
  if ← next (Spelling.startsSign ";") then
    let _ ← sign ";"
    return none
  else return some (head ++ (← functionBody read))

/-- Reads a static variable after its visibility. One without a type or a value stays as it is written. -/
def staticItem : Parser (Option Spelling) := do
  let head ← word "static" ++ optionalWord "mut" ++ name
  let value := sign "=" ++ expressionBy read true ++ sign ";"
  if ← next (Spelling.startsSign "=") then
    let _ ← value
    return none
  let typed ← sign ":" ++ typeBy read true
  if ← next (Spelling.startsSign ";") then
    let _ ← sign ";"
    return none
  return some (head ++ typed ++ (← value))

/-- Reads a constant after its visibility. One without a value, or with generic parameters, stays as it is written. -/
def constantItem : Parser (Option Spelling) := do
  let start ← word "const"
  if !(← next startsConstantName) then reject constantNames
  let d ← constantDefinition read
  return if d.isDefined && !d.isGeneric then some (start ++ d.tokens) else none

/-- Reads a type after its visibility. One without a value, or with bounds, stays as it is written. -/
def typeItem : Parser (Option Spelling) := do
  let d ← typeDefinition read .beforeValue
  return if d.isDefined && !d.isBounded then some d.tokens else none

/-- Reads a block of foreign items. -/
def foreignBlock : Speller :=
  optionalWord "unsafe" ++ word "extern" ++ optional startsText literal ++ innerItems read (foreignItem read)

/-- Reads the use of another package, possibly by another name. -/
def packageItem : Speller := do
  let own (w : String) (ts : Spelling) := ts.startsWord w
  let start ← word "extern" ++ word "crate"
  let label ← if ← next (own "self") then word "self" else name
  let rename ← optional (own "as") (word "as" ++ do if ← next (own "_") then word "_" else name)
  return start ++ label ++ rename ++ (← sign ";")

/-- Reads a module after its visibility, with what it holds or without. -/
def moduleItem : Speller := do
  let start ← optionalWord "unsafe" ++ word "mod"
  let label ← if ← next (Spelling.startsWord "try") then word "try" else name
  return start ++ label ++
    (← choose [(.token ";", fun ts => ts.startsSign ";", sign ";"),
      (.group .brace, Spelling.startsGroup .brace, innerItems read (spelledBy read .item))])

/-- Reads the declaration of a rewriting rule after its visibility. It stays as it is written. -/
def ruleDeclaration : Parser (Option Spelling) := do
  let any (d : Delimiter) : Parser (Option Spelling) := do
    group d skipAll
    return none
  let inBraces : Sought × (Spelling → Bool) × Parser (Option Spelling) :=
    (.group .brace, Spelling.startsGroup .brace, any .brace)
  let _ ← word "macro" ++ name
  choose [(.group .parenthesis, Spelling.startsGroup .parenthesis, do let _ ← any .parenthesis; choose [inBraces]),
    inBraces]

/-- Reads a declared type after its visibility. -/
def declaredType (keyword : String) (body : Speller) : Speller := word keyword ++ name ++ generics read ++ body

/-- A trait with the modifier `auto` comes next. -/
def startsAutoTrait (ts : Spelling) : Bool := ts.startsWord "auto" && ts.dropTree.startsWord "trait"

/-- The rule for an item that starts with `extern`, at the place after its visibility. -/
def externItem (ts : Spelling) (shown : Spelling) : Parser (Option Spelling) := do
  let second := ts.dropTree
  let third := second.dropTree
  let foreign : Parser (Option Spelling) := do
    if shown.isEmpty then return some (← foreignBlock read) else rejectAt shown [.token "extern"]
  if second.startsWord "crate" then return some (shown ++ (← packageItem))
  else if second.startsGroup .brace then foreign
  else if startsText second then
    if third.startsGroup .brace then foreign else rejectAt third [.group .brace]
  else rejectAt second [.token "crate", .group .brace, .stringLiteral]

/-- The rule for an item that starts with `unsafe`, at the place after its visibility. -/
def unsafeItem (ts : Spelling) (shown : Spelling) : Parser (Option Spelling) := do
  let second := ts.dropTree
  if second.startsWord "trait" || startsAutoTrait second then return some (shown ++ (← modifiedTrait read))
  else if second.startsWord "impl" then implementation read (!shown.isEmpty)
  else if second.startsWord "extern" then
    if shown.isEmpty then return some (← foreignBlock read) else rejectAt shown [.token "extern"]
  else if second.startsWord "mod" then return some (shown ++ (← moduleItem read))
  else
    rejectAt second ([.token "trait"] ++ (if second.startsWord "auto" then [] else [.token "auto"]) ++
      [.token "impl", .token "extern", .token "mod"])

/-- What an item can start with after its visibility, in the order in which it is looked for. Words that have been found
are not looked for. -/
def itemStarts (ts : Spelling) (shown : Spelling) : List Sought :=
  (["fn", "extern", "use", "static", "const", "unsafe", "mod", "type", "struct", "enum", "union", "trait", "auto",
    "impl", "default", "macro"].filter fun w => !ts.startsWord w).map Sought.token ++
    if shown.isEmpty then ruleStarts else []

/-- The rule for an item after its attributes. It answers nothing if the item stays as it is written. -/
def itemRule : Parser (Option Spelling) := do
  let shown ← visibility
  let ts ← peek
  let plain (p : Speller) : Parser (Option Spelling) := do return some (shown ++ (← p))
  let whole (p : Parser (Option Spelling)) : Parser (Option Spelling) := do return (← p).map (shown ++ ·)
  if startsSignature false ts then whole (functionItem read)
  else if ts.startsWord "extern" then externItem read ts shown
  else if ts.startsWord "use" then whole (importItem read)
  else if ts.startsWord "static" then whole (staticItem read)
  else if ts.startsWord "const" then whole (constantItem read)
  else if ts.startsWord "unsafe" then unsafeItem read ts shown
  else if ts.startsWord "mod" then plain (moduleItem read)
  else if ts.startsWord "type" then whole (typeItem read)
  else if ts.startsWord "struct" then plain (declaredType read "struct" (structureBody read))
  else if ts.startsWord "enum" then plain (declaredType read "enum" (enumerationBody read))
  else if ts.startsWord "union" && ts.dropTree.startsIdentifier then
    plain (declaredType read "union" (unionBody read))
  else if ts.startsWord "trait" then plain (plainTrait read)
  else if startsAutoTrait ts then plain (modifiedTrait read)
  else if ts.startsWord "impl" || (ts.startsWord "default" && !ts.dropTree.startsSign "!") then
    implementation read (!shown.isEmpty)
  else if ts.startsWord "macro" then ruleDeclaration
  else if shown.isEmpty && startsRule ts then plain (ruleItem true)
  else reject (itemStarts ts shown)

/-- Reads an item after its attributes, given the tokens from these on and how they are spelled. -/
def itemAfter (before front : Spelling) : Speller := do
  match ← itemRule read with
  | some tokens => return front ++ tokens
  | none => writtenSince before

/-- Reads an item. -/
def item : Speller := do
  let before ← peek
  itemAfter read before (← notes read)

end Concord.Source.Grammar
