import Concord.Source.Grammar.Phrase

/-!
# Paths

A path is names with double colons between them. In types and expressions a name can have arguments in angle brackets,
and in a bound the last one can have parameters and a result like a function; in attributes it has none.
-/

namespace Concord.Source

/-- A path of bare names. -/
structure NamePath where
  rooted : Bool
  names : List String
  deriving DecidableEq, Repr

namespace NamePath

def spelling (p : NamePath) : Spelling := Spelling.path p.rooted p.names

/-- The path is one given name. -/
def isName (p : NamePath) (name : String) : Bool := !p.rooted && p.names == [name]

theorem isName_iff {p : NamePath} {name : String} : p.isName name = true ↔ p = ⟨false, [name]⟩ := by
  cases p
  simp [isName]

end NamePath

/-- The arguments of a name in a path. -/
inductive Arguments where
  | none
  /-- In angle brackets, after a double colon or not. -/
  | angled (lead : Spelling) (items : Spelling)
  /-- Parameters and a result. -/
  | call (spelling : Spelling)
  deriving Repr

namespace Arguments

def spelling : Arguments → Spelling
  | none => []
  | angled lead items => lead ++ Spelling.sign "<" ++ items ++ Spelling.sign ">"
  | call spelling => spelling

/-- There are no arguments, and no brackets either. -/
def isNone : Arguments → Bool
  | none => true
  | _ => false

/-- There are no arguments, with empty brackets or without. -/
def isVacant : Arguments → Bool
  | none => true
  | angled _ items => items.isEmpty
  | call _ => false

end Arguments

/-- A name in a path and its arguments. -/
structure Segment where
  name : String
  arguments : Arguments := .none
  deriving Repr

/-- A path whose names can have arguments. -/
structure ArgumentPath where
  /-- What precedes the first name that is not part of a qualification. -/
  lead : Spelling
  isQualified : Bool
  first : Segment
  others : List Segment
  deriving Repr

namespace ArgumentPath

def segments (p : ArgumentPath) : List Segment := p.first :: p.others

def spelling (p : ArgumentPath) : Spelling :=
  p.lead ++ (Spelling.sign "::").intercalate (p.segments.map fun s => .word s.name :: s.arguments.spelling)

/-- The path can name a rewriting rule: nothing is qualified, and no name has arguments. -/
def isPlain (p : ArgumentPath) : Bool := !p.isQualified && p.segments.all (·.arguments.isNone)

/-- The path is one name, possibly with arguments in angle brackets. -/
def isSingle (p : ArgumentPath) : Bool := !p.isQualified && p.lead.isEmpty && p.others.isEmpty

/-- The last name of the path. -/
def last (p : ArgumentPath) : Segment := p.others.getLast?.getD p.first

/-- The path with a call in place of the arguments of its last name. -/
def withCall (p : ArgumentPath) (call : Spelling) : ArgumentPath :=
  let last := { p.last with arguments := .call call }
  if p.others.isEmpty then { p with first := last } else { p with others := p.others.dropLast ++ [last] }

end ArgumentPath

namespace Grammar

open Concord.Source.Parser

/-- A path comes next. -/
def startsPath (ts : Spelling) : Bool :=
  ts.startsIdentifier || ts.startsPathWord || ts.startsSign "::" || ts.startsSign "<"

/-- Reads a path of bare names. -/
def namePath : Parser NamePath := do
  let rooted ← optionalSign "::"
  let items ← separated "::" (fun ts => !(ts.startsIdentifier || ts.startsPathWord)) (fun ts => !ts.startsSign "::")
    anyWord
  match items.getLast? with
  | none => return ⟨!rooted.isEmpty, [← identifier]⟩
  | some (_, after) =>
    if after.isEmpty then return ⟨!rooted.isEmpty, items.map (·.1)⟩ else reject [.pathSegment]

/-- Generic arguments and parameters are spelled with the lifetimes in front, and a comma where the new order lacks one.
Each comes with whether it is a lifetime, and with the comma after it. -/
def arrange (items : List ((Bool × Spelling) × Spelling)) : Spelling :=
  let lifetimes := items.filter (·.1.1)
  let others := items.filter fun a => !a.1.1
  let pieces (as : List ((Bool × Spelling) × Spelling)) := as.map fun ((_, item), comma) => (item, comma)
  let separates : Option ((Bool × Spelling) × Spelling) → Bool
    | some (_, comma) => !comma.isEmpty
    | none => true
  (others.foldl
    (fun (spelled, separated) ((_, item), comma) =>
      (spelled ++ (if separated then [] else Spelling.sign ",") ++ item ++ comma, !comma.isEmpty))
    (Parser.spelled (pieces lifetimes), separates lifetimes.getLast?)).1

variable (read : Reader)

/-- Reads a result type, if there is one. -/
def result (plus : Bool) : Speller := do
  if ← next (Spelling.startsSign "->") then sign "->" ++ typeBy read plus else return []

/-- Reads parameters in parentheses, and a result type if there is one. -/
def callArguments : Speller :=
  groupThen .parenthesis (commaSpelled (typeBy read true)) fun parameters => do
    return Token.parens parameters :: (← result read false)

/-- Reads a generic argument, and says whether it is a lifetime. -/
def argument : Parser (Bool × Spelling) := do
  let ts ← peek
  if ts.startsLifetime && !ts.dropTree.startsSign "+" then return (true, ← lifetime)
  else return (false, ← spelledBy read .argument)

/-- Reads generic arguments in angle brackets. -/
def angleArguments : Parser Arguments := do
  let lead ← optionalSign "::"
  let _ ← sign "<"
  let closes (ts : Spelling) := ts.startsSign ">"
  let arguments ← separated "," closes closes (argument read)
  let _ ← sign ">"
  return .angled lead (arrange arguments)

/-- Reads a name and its arguments. In an expression, arguments need a double colon in front. -/
def segment (inExpression : Bool) : Parser Segment := do
  let ts ← peek
  if ts.startsWord "super" || ts.startsWord "self" || ts.startsWord "crate" || ts.startsWord "try" then
    return { name := ← anyWord }
  let name ← if ts.startsWord "Self" then anyWord else identifier
  let ts ← peek
  if (!inExpression && ts.startsSign "<" && !ts.startsSign "<=") ||
      (ts.startsSign "::" && Spelling.startsSign "<" (ts.drop 2)) then
    return { name, arguments := ← angleArguments read }
  return { name }

/-- Reads a path that is not qualified. -/
def plainPath (inExpression : Bool) : Parser ArgumentPath := do
  let lead ← optionalSign "::"
  let first ← segment read inExpression
  let more (ts : Spelling) := ts.startsSign "::" && !Spelling.startsGroup .parenthesis (ts.drop 2)
  let others ← repeated more (do let _ ← sign "::"; segment read inExpression)
  return { lead, isQualified := false, first, others }

/-- Reads a path, which can be qualified by a type or by a type as a trait. -/
def path (inExpression : Bool) : Parser ArgumentPath := do
  if ← next (Spelling.startsSign "<") then
    let less ← sign "<"
    let this ← typeBy read true
    let trait ← if ← next (Spelling.startsWord "as") then
        word "as" ++ (do return (← plainPath read false).spelling)
      else pure []
    let close ← sign ">" ++ sign "::"
    let first ← segment read inExpression
    let others ← repeated (Spelling.startsSign "::") (do let _ ← sign "::"; segment read inExpression)
    return { lead := less ++ this ++ trait ++ close, isQualified := true, first, others }
  else plainPath read inExpression

/-- Reads parameters for the last name of a path if it has no arguments yet. A double colon before them is dropped. -/
def withCallArguments (p : ArgumentPath) : Parser ArgumentPath := do
  let ts ← peek
  if p.last.arguments.isVacant && (ts.startsGroup .parenthesis ||
      (ts.startsSign "::" && Spelling.startsGroup .parenthesis (ts.drop 2))) then
    let _ ← optionalSign "::"
    return p.withCall (← callArguments read)
  return p

/-- The invocation of a rewriting rule comes next, after its path. -/
def invokes (p : ArgumentPath) (ts : Spelling) : Bool := p.isPlain && ts.startsBang

/-- Reads the arguments of a rewriting rule, and says whether they are in braces. -/
def ruleArguments : Parser (Bool × Spelling) := do
  let braced ← next (Spelling.startsGroup .brace)
  return (braced, ← anyGroup)

/-- Reads the invocation of a rewriting rule after its path. -/
def invocation (p : ArgumentPath) : Parser Reading := do
  let bang ← sign "!"
  let (braced, arguments) ← ruleArguments
  return { tokens := p.spelling ++ bang ++ arguments, shape := .invocation braced }

end Grammar

end Concord.Source
