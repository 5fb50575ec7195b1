import Concord.Source.Grammar.Field
import Concord.Source.Grammar.Pattern

/-!
# Signatures of functions

The head of a declared function: modifiers, name, generic parameters, parameters, result and conditions. The first
parameter can be a receiver, and a variadic mark can be the last.
-/

namespace Concord.Source.Grammar

open Concord.Source.Parser

/-- Without a given word in front, if it is there. -/
def afterWord (word : String) (ts : Spelling) : Spelling := if ts.startsWord word then ts.drop 1 else ts

/-- Without a calling convention in front, if it is there. -/
def afterConvention (ts : Spelling) : Spelling :=
  if ts.startsWord "extern" then if startsText (ts.drop 1) then ts.drop 2 else ts.drop 1 else ts

/-- The head of a function comes next; `safety` says that it can be marked as safe. -/
def startsSignature (safety : Bool) (ts : Spelling) : Bool :=
  let guarded : Spelling := afterWord "async" (afterWord "const" ts)
  let free : Spelling := if safety && guarded.startsWord "safe" then guarded.drop 1 else afterWord "unsafe" guarded
  (afterConvention free).startsWord "fn"

/-- Reads the mark of a variadic function, with a comma if anything comes after it. -/
def variadicEnd : Speller := sign "..." ++ optional (fun ts => !ts.isEmpty) (sign ",")

variable (read : Reader)

/-- Reads a receiver. -/
def receiver : Speller := do
  let reference ← optional (Spelling.startsSign "&") (sign "&" ++ optional Spelling.startsLifetime lifetime)
  let this ← optionalWord "mut" ++ word "self"
  let typed ← next (Spelling.startsSign ":")
  return reference ++ this ++ (← if reference.isEmpty && typed then sign ":" ++ typeBy read true else pure [])

/-- Reads a parameter other than a receiver, and says whether it is the variadic one. A type with arguments can stand
without a pattern, which is then spelled as an underscore. -/
def declaredArgument : Parser (Bool × Spelling) := do
  let ts ← peek
  if ts.startsIdentifier && ts.dropTree.startsSign "<" then
    return (false, Spelling.word "_" ++ Spelling.sign ":" ++ (← typeBy read true))
  let start ← spelledBy read .pattern ++ sign ":"
  if ← next (Spelling.startsSign "...") then return (true, start ++ (← variadicEnd))
  else return (false, start ++ (← typeBy read true))

/-- Reads parameters in at most `steps` rounds, after others or not, and after a receiver or not. -/
def declaredArgumentsWithin : Nat → Bool → Bool → Speller
  | 0, _, _ => throw .nestedTooDeeply
  | steps + 1, isFirst, received => do
    if ← atEnd then return []
    let front ← notes read
    if ← next (Spelling.startsSign "...") then return front ++ (← variadicEnd)
    let this ← attempt (receiver read)
    if this.isSome && received then throw .secondReceiver
    if this.isSome && !isFirst then throw .lateReceiver
    let (isVariadic, tokens) ← match this with
      | some tokens => pure (false, tokens)
      | none => declaredArgument read
    if isVariadic || (← atEnd) then return front ++ tokens
    return front ++ tokens ++ (← sign "," ++ declaredArgumentsWithin steps false (received || this.isSome))

/-- Reads the parameters of a function. -/
def declaredArguments : Speller := do declaredArgumentsWithin read ((← peek).length + 1) true false

/-- Reads the head of a function, and says whether it is marked as safe. -/
def signature (safety : Bool) : Parser (Bool × Spelling) := do
  let start ← optionalWord "const" ++ optionalWord "async"
  let guard ← optionalWord "unsafe"
  let safe ← if safety && guard.isEmpty then optionalWord "safe" else pure []
  let title ← convention ++ word "fn" ++ name ++ generics read
  groupThen .parenthesis (declaredArguments read) fun arguments => do
    let after ← result read true ++ optionalConditions read
    return (!safe.isEmpty, start ++ guard ++ safe ++ title ++ Token.parens arguments :: after)

end Concord.Source.Grammar
