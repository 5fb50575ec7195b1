import Concord.Source.Grammar.Generics
import Concord.Source.Grammar.Member

/-!
# Patterns

A pattern is a name, a literal, a path with parts or without, a range, a reference, a tuple, a slice, or the invocation
of a rewriting rule. Patterns joined by bars are alternatives; one pattern alone can be asked for, or alternatives.
-/

namespace Concord.Source.Grammar

open Concord.Source.Parser

/-- A bar between alternatives comes next. -/
def startsBar (ts : Spelling) : Bool := ts.startsSign "|" && !ts.startsSign "||" && !ts.startsSign "|="

/-- No bound of a range can start here. -/
def endsRangePattern (ts : Spelling) : Bool :=
  ts.isEmpty || ts.startsSign "|" || ts.startsSign "=" || ts.startsColon || ts.startsSign "," || ts.startsSign ";" ||
    ts.startsWord "if"

/-- What the bound of a range can start with, in the order in which it is looked for. -/
def boundStarts : List Sought :=
  [.literal, .identifier, .token "::", .token "<", .token "self", .token "Self", .token "super", .token "crate",
    .token "const"]

/-- What a pattern can start with, in the order in which it is looked for. -/
def patternStarts : List Sought :=
  [.identifier, .token "::", .token "<", .token "_", .literal, .token "const", .token "ref", .token "mut", .token "&",
    .group .parenthesis, .group .bracket, .token ".."]

/-- A name comes next with something after it that makes it a path. -/
def startsNamedPath (ts : Spelling) : Bool :=
  let second := ts.dropTree
  ts.startsIdentifier &&
    (second.startsSign "::" || second.startsSign "!" || second.startsGroup .brace ||
      second.startsGroup .parenthesis || second.startsSign "..")

/-- A pattern that starts with a path comes next. -/
def startsPathPattern (ts : Spelling) : Bool :=
  startsNamedPath ts || (ts.startsWord "self" && ts.dropTree.startsSign "::") || ts.startsSign "::" ||
    ts.startsSign "<" || ts.startsWord "Self" || ts.startsWord "super" || ts.startsWord "crate"

/-- Reads the mark of a range in a pattern, and says whether the range is closed. The mark with three points is spelled
as the closed one. -/
def patternRangeMark : Parser (Bool × Spelling) := do
  let ts ← peek
  if ts.startsSign "..=" then return (true, ← sign "..=")
  else if ts.startsSign "..." then
    let _ ← sign "..."
    return (true, Spelling.sign "..=")
  else return (false, ← sign "..")

variable (read : Reader)

/-- Reads a bound of a range, if there is one. -/
def rangeBound : Speller := do
  let ts ← peek
  if endsRangePattern ts then return []
  else if ts.startsLiteral then literal
  else if startsPath ts then return (← path read true).spelling
  else if ts.startsWord "const" then word "const" ++ blockBy read (innerNotes read)
  else reject boundStarts

/-- Reads a range after its start. A closed range needs its end. -/
def rangePattern (start : Spelling) : Parser Reading := do
  let (closed, mark) ← patternRangeMark
  let last ← rangeBound read
  if closed && last.isEmpty then reject [.upperBound]
  return { tokens := start ++ mark ++ last, shape := if start.isEmpty || last.isEmpty then .openRange else .range }

/-- Reads alternatives, with a bar in front or without. -/
def alternatives : Parser Reading := do
  let lead ← optionalSign "|"
  let first ← read .pattern
  let others ← repeated startsBar (sign "|" ++ spelledBy read .pattern)
  if lead.isEmpty && others.isEmpty then return first
  return { tokens := lead ++ first.tokens ++ others.flatten }

/-- Reads alternatives and spells them. -/
def alternativesSpelled : Speller := do return (← alternatives read).tokens

/-- Reads a field of a pattern: a name with a pattern, or a name with modifiers, which is a pattern itself. One with the
modifier `box` stays as it is written. -/
def fieldPattern : Speller := do
  let before ← peek
  let boxed ← optionalWord "box"
  let modifiers ← optionalWord "ref" ++ optionalWord "mut"
  let isPlain := boxed.isEmpty && modifiers.isEmpty
  let isNumber := isPlain && startsInteger (← peek)
  let name ← if isPlain then member else pure [.word (← identifier)]
  if isNumber || (isPlain && (← next (Spelling.startsSign ":"))) then
    return name ++ (← sign ":" ++ alternativesSpelled read)
  if boxed.isEmpty then return modifiers ++ name else writtenSince before

/-- Reads the fields of a pattern in at most `steps` rounds. Two points for the fields that are not named end them. -/
def fieldPatternsWithin : Nat → Speller
  | 0 => throw .nestedTooDeeply
  | steps + 1 => do
    if ← atEnd then return []
    let front ← notes read
    if ← next (Spelling.startsSign "..") then return front ++ (← sign "..")
    let field ← fieldPattern read
    if ← atEnd then return front ++ field
    return front ++ field ++ (← sign "," ++ fieldPatternsWithin steps)

/-- Reads the fields of a pattern in braces. -/
def fieldPatterns : Speller := grouped .brace (do fieldPatternsWithin read ((← peek).length + 1))

/-- Reads a pattern that starts with a path. -/
def pathPattern : Parser Reading := do
  let p ← path read true
  let ts ← peek
  if invokes p ts then invocation p
  else if ts.startsGroup .brace then return { tokens := p.spelling ++ (← fieldPatterns read) }
  else if ts.startsGroup .parenthesis then
    return { tokens := p.spelling ++ (← grouped .parenthesis (commaSpelled (alternativesSpelled read))) }
  else if ts.startsSign ".." then rangePattern read p.spelling
  else return { tokens := p.spelling }

/-- Reads a literal, a constant block, or a range that starts with one. -/
def literalPattern : Parser Reading := do
  let start ← rangeBound read
  if ← next (Spelling.startsSign "..") then rangePattern read start else return { tokens := start }

/-- Reads a name with its modifiers, and the pattern after it that it names, if there is one. -/
def namePattern : Speller := do
  let modifiers ← optionalWord "ref" ++ optionalWord "mut"
  let name ← if ← next (Spelling.startsWord "self") then anyWord else identifier
  return modifiers ++ .word name :: (← optional (Spelling.startsSign "@") (sign "@" ++ spelledBy read .pattern))

/-- Reads a part of a slice, which is no range without start or without end. -/
def slicePart : Speller := do
  let part ← alternatives read
  if part.shape == .openRange then throw .openRangeInSlice
  return part.tokens

/-- Reads a pattern that starts with two points: a range without start, or the parts that are not named. -/
def pointsPattern : Parser Reading := do
  let closed ← next (Spelling.startsSign "..=")
  let mark ← if closed then sign "..=" else sign ".."
  let last ← rangeBound read
  if last.isEmpty then
    if closed then reject [.upperBound] else return { tokens := mark }
  return { tokens := mark ++ last, shape := .openRange }

/-- Reads one pattern. -/
def pattern : Parser Reading := do
  let ts ← peek
  if startsPathPattern ts then pathPattern read
  else if ts.startsWord "_" then return { tokens := ← word "_" }
  else if ts.startsWord "box" then
    let tokens ← asWritten (word "box" ++ spelledBy read .pattern)
    return { tokens, shape := .asWritten, opensAsWritten := true }
  else if ts.startsSign "-" || ts.startsLiteral || ts.startsWord "const" then literalPattern read
  else if ts.startsWord "ref" || ts.startsWord "mut" || ts.startsWord "self" || ts.startsIdentifier then
    return { tokens := ← namePattern read }
  else if ts.startsSign "&" then return { tokens := ← sign "&" ++ optionalWord "mut" ++ spelledBy read .pattern }
  else if ts.startsGroup .parenthesis then
    return { tokens := ← grouped .parenthesis (commaSpelled (alternativesSpelled read)) }
  else if ts.startsGroup .bracket then
    return { tokens := ← grouped .bracket (commaSpelled (slicePart read)) }
  else if ts.startsSign ".." && !ts.startsSign "..." then pointsPattern read
  else reject (if ts.startsSign ".." then patternStarts.dropLast else patternStarts)

end Concord.Source.Grammar
