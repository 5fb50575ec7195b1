import Concord.Source.Parser

/-!
# Names of fields

A field has a name, or a number in place of one. A number is spelled in decimal digits; it has no suffix, no sign, and no
more than 32 bits. Two numbers with a point between them come as one literal, a fraction.
-/

namespace Concord.Source

/-- The number that a literal is as the name of a field, after a minus sign or not. -/
def Member.index (negative : Bool) (literal : String) : Except SyntaxError Nat :=
  match Literal.integerParts? literal with
  | none => throw (.expected false [.integerLiteral])
  | some (n, suffix) =>
    if !suffix.isEmpty then throw .suffixedMember
    else if negative then throw .notACount
    else if UInt32.size ≤ n then throw .countOverflow
    else return n

namespace Grammar

open Concord.Source.Parser

/-- A number as a name, spelled in decimal digits. -/
def indexToken (n : Nat) : Token := .literal (toString n)

/-- The number that comes next, with a minus sign before it or not, and how many tokens it is. -/
def numberNext? : Spelling → Option (Bool × String × Nat)
  | .literal s :: _ => if Literal.isNumber s then some (false, s, 1) else none
  | .sign '-' _ :: .literal s :: _ => if Literal.isNumber s then some (true, s, 2) else none
  | _ => none

/-- An integer comes next. -/
def startsInteger (ts : Spelling) : Bool :=
  (numberNext? ts).any fun (_, s, _) => (Literal.integer? s).isSome

/-- Reads the name of a field. -/
def member : Speller := do
  let ts ← peek
  if ts.startsIdentifier then return [.word (← identifier)]
  else if startsInteger ts then
    match numberNext? ts with
    | some (negative, s, count) =>
      skip count
      return [indexToken (← Member.index negative s)]
    | none => reject [.member]
  else reject [.member]

/-- The names in a fraction, and whether a point without a name ends it. -/
def fractionMembers (negative : Bool) (fraction : String) : Except SyntaxError (List Nat × Bool) := do
  let parts := fraction.splitOn "."
  let isOpen := parts.getLast? == some ""
  let names := if isOpen then parts.dropLast else parts
  return (← names.zipIdx.mapM fun (part, i) => Member.index (negative && i == 0) part, isOpen)

/-- Reads a fraction as the names of fields, if one is next, and says whether a point without a name ends it. -/
def fraction? : Parser (Option (Spelling × Bool)) := do
  match numberNext? (← peek) with
  | some (negative, s, count) =>
    if (Literal.integer? s).isSome then return none
    skip count
    let (names, isOpen) ← fractionMembers negative s
    let spelled := (Spelling.sign ".").intercalate (names.map fun n => [indexToken n])
    return some (if isOpen then spelled ++ Spelling.sign "." else spelled, isOpen)
  | none => return none

end Grammar

end Concord.Source
