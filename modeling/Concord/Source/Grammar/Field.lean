import Concord.Source.Grammar.Type

/-!
# Fields, variants and bodies

What a declared type holds: fields with names or without, variants of an enumeration, and conditions on its parameters.
-/

namespace Concord.Source.Grammar

open Concord.Source.Parser

/-! ## Visibility -/

/-- A single word that can limit a visibility. -/
def startsScope (ts : Spelling) : Bool := ts.startsWord "crate" || ts.startsWord "self" || ts.startsWord "super"

/-- Reads a visibility, if there is one. Parentheses after it belong to it only if they name a scope. -/
def visibility : Speller := do
  if ← next (Spelling.startsWord "pub") then
    let start ← word "pub"
    match ← peek with
    | .group .parenthesis content :: _ =>
      if startsScope content && content.length == 1 then
        skip 1
        return start ++ [.parens content]
      else if Spelling.startsWord "in" content then
        return start ++ (← grouped .parenthesis (word "in" ++ do return (← namePath).spelling))
      else return start
    | _ => return start
  else return []

/-- Reads a name. -/
def name : Speller := do return [.word (← identifier)]

variable (read : Reader)

/-! ## Fields -/

/-- Reads a field with a name. A field without one is marked by an underscore, and its type can be a list of fields, which
stays as it is written. -/
def namedField : Speller := do
  let front ← notes read ++ visibility
  let isUnnamed ← next (Spelling.startsWord "_")
  let label ← if isUnnamed then word "_" else name
  let colon ← sign ":"
  let ts ← peek
  let nested := isUnnamed && (ts.startsWord "struct" || (ts.startsWord "union" && ts.dropTree.startsGroup .brace))
  let type ← if nested then asWritten (do let _ ← anyWord; read .fields) else typeBy read true
  return front ++ label ++ colon ++ type

/-- Reads fields with names, in braces. -/
def namedFields : Speller := grouped .brace (commaSpelled (namedField read))

/-- Reads a field without a name. -/
def unnamedField : Speller := notes read ++ visibility ++ typeBy read true

/-- Reads fields without names, in parentheses. -/
def unnamedFields : Speller := grouped .parenthesis (commaSpelled (unnamedField read))

/-- Reads a variant of an enumeration. Its visibility is dropped. -/
def variant : Speller := do
  let front ← notes read
  let _ ← visibility
  let label ← name
  let ts ← peek
  let fields ← if ts.startsGroup .brace then namedFields read
    else if ts.startsGroup .parenthesis then unnamedFields read
    else pure []
  return front ++ label ++ fields ++ (← optional (Spelling.startsSign "=") (sign "=" ++ expressionBy read true))

/-! ## Bodies -/

/-- Conditions could be next, which the caller has found not to be so. -/
def noConditions : Sought × (Spelling → Bool) × Speller := (.token "where", fun _ => false, pure [])

/-- A semicolon ends what comes before it. -/
def semicolonEnd : Sought × (Spelling → Bool) × Speller :=
  (.token ";", fun ts => ts.startsSign ";", sign ";")

/-- Fields with names, in braces. -/
def fieldsEnd : Sought × (Spelling → Bool) × Speller :=
  (.group .brace, Spelling.startsGroup .brace, namedFields read)

/-- Reads the end of a structure whose fields have no names. -/
def afterUnnamedFields : Speller := do
  if ← next startsConditions then conditions read ++ choose [semicolonEnd]
  else choose [noConditions, semicolonEnd]

/-- Reads the body of a structure. Conditions come before fields with names and after fields without. -/
def structureBody : Speller := do
  if ← next startsConditions then conditions read ++ choose [fieldsEnd read, semicolonEnd]
  else
    choose [noConditions,
      (.group .parenthesis, Spelling.startsGroup .parenthesis, unnamedFields read ++ afterUnnamedFields read),
      fieldsEnd read, semicolonEnd]

/-- Reads the body of an enumeration. -/
def enumerationBody : Speller := optionalConditions read ++ grouped .brace (commaSpelled (variant read))

/-- Reads the body of a union. -/
def unionBody : Speller := optionalConditions read ++ namedFields read

end Concord.Source.Grammar
