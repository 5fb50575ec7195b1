import Concord.Source.Grammar.Bound

/-!
# Function types

A function type lists its parameters, each with a name or without, may be variadic, and may name a result.
-/

namespace Concord.Source

/-- A parameter of a function type. -/
structure Parameter where
  attributes : Spelling
  /-- The name with its colon, if there is one. -/
  name : Spelling
  type : Spelling
  deriving Repr

namespace Parameter

def spelling (p : Parameter) : Spelling := p.attributes ++ p.name ++ p.type

end Parameter

/-- A function type. -/
structure FunctionType where
  /-- Modifiers in front of `fn`. -/
  lead : Spelling
  /-- The parameters, each with the comma after it. -/
  parameters : List (Parameter × Spelling)
  /-- The mark of a variadic type. -/
  variadic : Option Spelling
  result : Option Spelling
  deriving Repr

namespace FunctionType

/-- A comma is needed between the parameters and the mark of a variadic type. -/
def variadicLead (f : FunctionType) : Spelling :=
  if f.parameters.getLast?.any fun (_, comma) => comma.isEmpty then Spelling.sign "," else []

def spelling (f : FunctionType) : Spelling :=
  f.lead ++ Spelling.word "fn" ++
    [.parens (Parser.spelled (f.parameters.map fun (p, comma) => (p.spelling, comma)) ++
      match f.variadic with
      | some mark => f.variadicLead ++ mark
      | none => [])] ++
    match f.result with
    | some type => Spelling.sign "->" ++ type
    | none => []

end FunctionType

namespace Grammar

open Concord.Source.Parser

/-- A name or an underscore comes next. -/
def startsParameterName (ts : Spelling) : Bool := ts.startsIdentifier || ts.startsWord "_"

/-- A receiver that can change comes next. -/
def startsMutableReceiver (ts : Spelling) : Bool := ts.startsWord "mut" && ts.dropTree.startsWord "self"

/-- The mark of a variadic type comes next, with a name or without. -/
def startsVariadic (ts : Spelling) : Bool :=
  ts.startsSign "..." ||
    (startsParameterName ts && ts.dropTree.startsSign ":" && ts.dropTree.dropTree.startsSign "...")

/-- A text literal comes next. -/
def startsText : Spelling → Bool
  | .literal s :: _ => (Literal.string? s).isSome
  | _ => false

variable (read : Reader)

/-- Reads the mark of a variadic type. -/
def variadicMark (attributes : Spelling) : Speller := do
  let name ← if ← next startsParameterName then do
      let name ← anyWord
      pure [.word name] ++ sign ":"
    else pure []
  return attributes ++ name ++ (← sign "..." ++ optionalSign ",")

/-- Reads a parameter. The first one can be a receiver, which stays as it is written if it can change. -/
def parameter (isFirst : Bool) (attributes : Spelling) : Parser Parameter := do
  let before ← peek
  let changes := isFirst && startsMutableReceiver before
  if changes then skip 1
  let ts ← peek
  let receives := isFirst && ts.startsWord "self"
  let named := (startsParameterName ts || receives) && ts.dropTree.startsColon
  let name ← if named then do
      let name ← anyWord
      pure [.word name] ++ sign ":"
    else pure []
  let ts ← peek
  let asWritten : Parser Parameter := do return { attributes, name := [], type := ← writtenSince before }
  if isFirst && !(named && receives) && startsMutableReceiver ts then
    skip 2
    asWritten
  else if changes && !named then
    let _ ← word "self"
    asWritten
  else
    let type ← typeBy read true
    if changes then asWritten else return { attributes, name, type }

/-- Reads parameters in at most `steps` rounds, and the mark of a variadic type after them. -/
def parametersWithin : Nat → Bool → Parser (List (Parameter × Spelling) × Option Spelling)
  | 0, _ => throw .nestedTooDeeply
  | steps + 1, isFirst => do
    if ← atEnd then return ([], none)
    let attributes ← notes read
    if ← next startsVariadic then return ([], some (← variadicMark attributes))
    let p ← parameter read isFirst attributes
    if ← atEnd then return ([(p, [])], none)
    let comma ← sign ","
    let (ps, variadic) ← parametersWithin steps false
    return ((p, comma) :: ps, variadic)

/-- Reads the calling convention of a function, if it has one. -/
def convention : Speller :=
  optional (Spelling.startsWord "extern") (word "extern" ++ optional startsText literal)

/-- Reads the modifiers of a function type. -/
def functionLead : Speller := optionalBinder read ++ optionalWord "unsafe" ++ convention

/-- Reads a function type. -/
def functionType : Parser FunctionType := do
  let lead ← functionLead read
  let _ ← word "fn"
  groupThen .parenthesis (do parametersWithin read ((← peek).length + 1) true) fun (parameters, variadic) => do
    let result ← if ← next (Spelling.startsSign "->") then do
        let _ ← sign "->"
        pure (some (← typeBy read false))
      else pure none
    return { lead, parameters, variadic, result }

variable {read}

/-- The result of a function type is read as a type without a sum of bounds. -/
theorem exists_run_result {ts rest : Spelling} {f : FunctionType} {type : Spelling}
    (whole : (functionType read).run ts = .ok ⟨f, rest, none⟩) (result : f.result = some type) :
    ∃ front after, (typeBy read false).run front = .ok ⟨type, after, none⟩ := by
  obtain ⟨lead, _, -, afterLead⟩ := run_bind_eq_ok_iff.1 whole
  obtain ⟨_, _, -, afterWord⟩ := run_bind_eq_ok_iff.1 afterLead
  obtain ⟨⟨parameters, variadic⟩, between, afterGroup⟩ := exists_run_of_groupThen afterWord
  rw [run_next_bind] at afterGroup
  split at afterGroup
  case isTrue =>
    obtain ⟨_, _, -, afterArrow⟩ := run_bind_eq_ok_iff.1 afterGroup
    obtain ⟨type', _, typed, last⟩ := run_bind_eq_ok_iff.1 afterArrow
    cases last
    cases result
    exact ⟨_, _, typed⟩
  case isFalse =>
    cases afterGroup
    cases result

end Grammar

end Concord.Source
