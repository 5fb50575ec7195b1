import Concord.Source.Grammar.Function
import Concord.Source.Grammar.Generics

/-!
# Types

The rule for types, and the rule for generic arguments, which are types, constants, or names with a value or bounds.
-/

namespace Concord.Source.Grammar

open Concord.Source.Parser

/-- What the inside of parentheses turns out to be. -/
inductive InParentheses where
  /-- All of a type in parentheses. -/
  | whole (content : Spelling)
  /-- An optional bound. -/
  | bound (content : Spelling)
  /-- A type that could be the first of several bounds. -/
  | single (content : Reading)

/-- A type in parentheses as the first of several bounds: a bound that has parentheses gets no others. -/
def parenthesizedBound (first : Reading) : Spelling :=
  match first.shape, first.tokens with
  | .bound, [.group .parenthesis content] => [.parens content]
  | _, tokens => [.parens tokens]

variable (read : Reader)

/-- Reads bounds that make a type: one at least is a trait. -/
def objectBounds (plus : Bool) : Speller := do
  let items ← bounds read plus {}
  if items.any isTrait then return spelled items else throw .objectWithoutTrait

/-- Reads the inside of parentheses in a type. -/
def inParentheses : Parser InParentheses := do
  let ts ← peek
  if ts.isEmpty then return .whole []
  if ts.startsLifetime then return .whole (← objectBounds read true)
  if ts.startsSign "?" then
    let (_, content) ← traitBound read {}
    return .bound content
  let first ← read (.type true)
  if ← next (Spelling.startsSign ",") then
    return .whole (first.tokens ++ (← sign "," ++ commaSpelled (typeBy read true)))
  return .single first

/-- Reads further bounds, each after a plus sign. -/
def boundsAfter : Speller := do
  return (← repeated (Spelling.startsSign "+") (sign "+" ++ bound read {})).flatten

/-- Reads a type in parentheses, which can be the first of several bounds. -/
def parenthesized (plus : Bool) : Parser Reading :=
  groupThen .parenthesis (inParentheses read) fun
    | .whole content => return { tokens := [.parens content] }
    | .bound content => do
      let others ← boundsAfter read
      return { tokens := .parens content :: others, shape := if others.isEmpty then .bound else .other }
    | .single first => do
      if plus && first.shape != .other && (← next (Spelling.startsSign "+")) then
        return { tokens := parenthesizedBound first ++ (← boundsAfter read) }
      else return { tokens := [.parens first.tokens] }

/-- Reads a type that starts with a path: the path itself, the invocation of a rewriting rule, or several bounds. A binder
goes with a bound, and is dropped before an invocation. -/
def pathType (plus : Bool) (binders : Spelling) : Parser Reading := do
  let p ← path read false
  let ts ← peek
  if invokes p ts then return { tokens := (← invocation p).tokens }
  else if p.isQualified then return { tokens := p.spelling }
  else if !binders.isEmpty || (plus && ts.startsSign "+") then
    let others ← if plus then moreBounds read {} else pure []
    return { tokens := binders ++ p.spelling ++ spelled others, shape := if others.isEmpty then .bound else .other }
  else return { tokens := p.spelling, shape := if p.isSingle then .name else .path }

/-- Reads what a pointer or a reference leads to, after its own tokens. -/
def indirect (lead : Speller) : Speller := lead ++ typeBy read false

/-- Reads an array or a slice. -/
def arrayOrSlice : Speller :=
  grouped .bracket (typeBy read true ++ optional (Spelling.startsSign ";") (sign ";" ++ expressionBy read true))

/-- Reads a trait object. One with a star stays as it is written. -/
def dynamicType (plus : Bool) : Speller := do
  let before ← peek
  let start ← word "dyn"
  let star ← optionalSign "*"
  let tokens ← objectBounds read plus
  if star.isEmpty then return start ++ tokens else writtenSince before

/-- Reads an opaque type. -/
def opaqueType (plus : Bool) : Speller := do
  let start ← word "impl"
  let items ← bounds read plus { captures := true, constants := true }
  if items.any isTrait then return start ++ spelled items else throw .opaqueWithoutTrait

/-- A function type comes next. -/
def startsFunction (ts : Spelling) : Bool := ts.startsWord "fn" || ts.startsWord "unsafe" || ts.startsWord "extern"

/-- A phrase that is built in comes next. -/
def startsBuiltin (ts : Spelling) : Bool := ts.startsWord "builtin" && ts.dropTree.startsSign "#"

/-- Reads a phrase that is built in: its name and arguments, which are any tokens. -/
def builtin : Parser Unit := do
  let _ ← word "builtin" ++ sign "#"
  let _ ← identifier
  group .parenthesis skipAll

/-- What a type can start with, in the order in which it is looked for. -/
def typeStarts : List Sought :=
  [.token "for", .group .parenthesis, .token "fn", .token "unsafe", .token "extern", .identifier, .token "::",
    .token "<", .token "dyn", .group .bracket, .token "*", .token "&", .token "!", .token "impl", .token "_", .lifetime]

/-- What a type can go on with after a binder. -/
def boundTypeStarts : List Sought :=
  [.identifier, .token "fn", .token "unsafe", .token "extern", .token "super", .token "self", .token "Self",
    .token "crate"]

/-- Reads a type that starts with a binder. -/
def boundType (plus : Bool) : Parser Reading := do
  let before ← peek
  let binders ← binder read
  let ts ← peek
  if startsFunction ts then return { tokens := binders ++ (← functionType read).spelling }
  else if startsBuiltin ts then
    builtin
    return { tokens := ← writtenSince before }
  else if ts.startsIdentifier || ts.startsPathWord then pathType read plus binders
  else reject boundTypeStarts

/-- Reads a type. -/
def type (plus : Bool) : Parser Reading := do
  let ts ← peek
  if ts.startsWord "for" then boundType read plus
  else if ts.startsGroup .parenthesis then parenthesized read plus
  else if startsFunction ts then return { tokens := (← functionType read).spelling }
  else if startsBuiltin ts then return { tokens := ← asWritten builtin }
  else if startsPath ts then pathType read plus []
  else if ts.startsWord "dyn" then return { tokens := ← dynamicType read plus }
  else if ts.startsGroup .bracket then return { tokens := ← arrayOrSlice read }
  else if ts.startsSign "*" then
    let tokens ← indirect read (sign "*" ++
      choose [(.token "const", Spelling.startsWord "const", word "const"),
        (.token "mut", Spelling.startsWord "mut", word "mut")])
    return { tokens }
  else if ts.startsSign "&" then
    let tokens ← indirect read (sign "&" ++ optional Spelling.startsLifetime lifetime ++ optionalWord "mut")
    return { tokens }
  else if ts.startsSign "!" then return { tokens := ← sign "!" }
  else if ts.startsWord "impl" then return { tokens := ← opaqueType read plus }
  else if ts.startsWord "_" then return { tokens := ← word "_" }
  else if ts.startsLifetime then return { tokens := ← objectBounds read true }
  else reject typeStarts

/-- A constant comes next, as a generic argument. -/
def startsConstant (ts : Spelling) : Bool := ts.startsLiteral || ts.startsGroup .brace

/-- Reads a generic argument other than a lifetime. A single name can be given a type, a constant, or bounds. -/
def genericArgument : Speller := do
  if ← next startsConstant then constant read
  else
    let t ← read (.type true)
    let ts ← peek
    if t.shape != .name then return t.tokens
    else if ts.startsSign "=" then
      let equals ← sign "="
      let value ← if ← next startsConstant then constant read else typeBy read true
      return t.tokens ++ equals ++ value
    else if ts.startsSign ":" then
      let colon ← sign ":"
      let stop (ts : Spelling) := ts.startsSign "," || ts.startsSign ">"
      return t.tokens ++ colon ++ (← boundsUpTo read stop .declared)
    else return t.tokens

end Concord.Source.Grammar
