import Concord.Source.Grammar.Type

/-!
# Operators

Operands are joined by binary operators, assignments, ranges and casts, each of which binds more or less tightly than the
others. A range is no operand of another operator on its left, and comparisons cannot be chained.
-/

namespace Concord.Source

/-- How tightly an operator binds, in ascending order. -/
inductive Precedence where
  | least
  | assignment
  | range
  | disjunction
  | conjunction
  | comparison
  | bitOr
  | bitXor
  | bitAnd
  | shift
  | sum
  | product
  | cast
  deriving DecidableEq, Repr

namespace Precedence

/-- The place of a precedence in the order. -/
def rank : Precedence → Nat
  | least => 0
  | assignment => 1
  | range => 2
  | disjunction => 3
  | conjunction => 4
  | comparison => 5
  | bitOr => 6
  | bitXor => 7
  | bitAnd => 8
  | shift => 9
  | sum => 10
  | product => 11
  | cast => 12

/-- An operator on the right of an operand takes it from one on its left: it binds more tightly, or both assign. -/
def takesFrom (right left : Precedence) : Bool :=
  left.rank < right.rank || (right == assignment && left == assignment)

end Precedence

/-- What joins an operand to what comes after it. -/
inductive Operator where
  /-- A sign with an operand after it. -/
  | binary (sign : String) (precedence : Precedence)
  | assign
  | range
  | cast
  deriving DecidableEq, Repr

namespace Operator

def precedence : Operator → Precedence
  | binary _ p => p
  | assign => .assignment
  | range => .range
  | cast => .cast

/-- Signs between two operands, each before those that it starts with. -/
def signs : List (String × Precedence) :=
  ["+=", "-=", "*=", "/=", "%=", "^=", "&=", "|=", "<<=", ">>="].map (·, .assignment) ++
    [("&&", .conjunction), ("||", .disjunction), ("<<", .shift), (">>", .shift)] ++
    ["==", "<=", "!=", ">="].map (·, .comparison) ++
    [("+", .sum), ("-", .sum), ("*", .product), ("/", .product), ("%", .product), ("^", .bitXor), ("&", .bitAnd),
      ("|", .bitOr), ("<", .comparison), (">", .comparison)]

/-- The operator that comes next. -/
def next? (ts : Spelling) : Option Operator :=
  match signs.find? fun (s, _) => ts.startsSign s with
  | some (s, p) => some (binary s p)
  | none =>
    if ts.startsSign "=" && !ts.startsSign "=>" then some assign
    else if ts.startsSign ".." then some range
    else if ts.startsWord "as" then some cast
    else none

end Operator

namespace Grammar

open Concord.Source.Parser

/-- Signs before which a range has no end. -/
def rangeStops : List String :=
  [",", ";", "?", "=>", "=", "+", "/", "%", "^", ">", "<=", "!=", "-=", "*=", "&=", "|=", "<<="]

/-- A range has no end here. -/
def endsRange (records : Bool) (ts : Spelling) : Bool :=
  ts.isEmpty || rangeStops.any (fun s => ts.startsSign s) || ts.startsPoint || ts.startsWord "as" ||
    (!records && ts.startsGroup .brace)

/-- What follows a cast, if it cannot. -/
def afterCast? (ts : Spelling) : Option AfterCast :=
  let second := ts.dropTree
  let third := second.dropTree
  if ts.startsPoint then
    if second.startsWord "await" then some .await
    else if second.startsIdentifier && (third.startsGroup .parenthesis || third.startsSign "::") then some .methodCall
    else some .fieldAccess
  else if ts.startsSign "?" then some .question
  else if ts.startsGroup .bracket then some .index
  else if ts.startsGroup .parenthesis then some .call
  else none

/-- Reads the mark of a range in an expression, and says whether the range is closed. Three points are no mark. -/
def rangeMark : Parser (Bool × Spelling) := do
  let ts ← peek
  if ts.startsSign "..=" then return (true, ← sign "..=")
  else if ts.startsSign "..." then reject [.token "..="]
  else return (false, ← sign "..")

variable (read : Reader) (records : Bool)

/-- Reads a cast after its operand. -/
def cast : Speller := do
  let tokens ← word "as" ++ typeBy read false
  match afterCast? (← peek) with
  | some what => throw (.afterCast what)
  | none => return tokens

mutual

/-- Reads operators that bind no less than `floor`, with their operands, after the operand on the left, in at most
`steps` steps. -/
def operatorsWithin : Nat → Precedence → Reading → Parser Reading
  | 0, _, _ => throw .nestedTooDeeply
  | steps + 1, floor, left => do
    match Operator.next? (← peek) with
    | none => return left
    | some o =>
      if left.shape == .range || o.precedence.rank < floor.rank then return left
      let opensAsWritten := left.opensAsWritten
      match o with
      | .binary s p =>
        if p == .comparison && left.shape == .comparison then throw .chainedComparison
        let mark ← sign s
        let right ← rightOperandWithin steps p
        let shape := if p == .comparison then .comparison else .other
        operatorsWithin steps floor { tokens := left.tokens ++ mark ++ right, shape, opensAsWritten }
      | .assign =>
        let mark ← sign "="
        let right ← rightOperandWithin steps .assignment
        operatorsWithin steps floor { tokens := left.tokens ++ mark ++ right, opensAsWritten }
      | .range =>
        let tokens ← rangeWithin steps
        operatorsWithin steps floor { tokens := left.tokens ++ tokens, shape := .range }
      | .cast =>
        let tokens ← cast read
        operatorsWithin steps floor { tokens := left.tokens ++ tokens, opensAsWritten }

/-- Reads an operand on the right of an operator, with the operators that take it from that one. -/
def rightOperandWithin : Nat → Precedence → Speller
  | 0, _ => throw .nestedTooDeeply
  | steps + 1, left => do takenWithin steps left (← read (.operand records))

/-- Reads the operators that take an operand from the one on its left, as long as there are any. -/
def takenWithin : Nat → Precedence → Reading → Speller
  | 0, _, _ => throw .nestedTooDeeply
  | steps + 1, left, operand => do
    let before ← peek
    match Operator.next? before with
    | none => return operand.tokens
    | some o =>
      if o.precedence.takesFrom left then
        let taken ← operatorsWithin steps o.precedence operand
        if (← peek).length = before.length then return taken.tokens else takenWithin steps left taken
      else return operand.tokens

/-- Reads a range from its mark on. An open range can lack its end. -/
def rangeWithin : Nat → Speller
  | 0 => throw .nestedTooDeeply
  | steps + 1 => do
    let (closed, mark) ← rangeMark
    if !closed && (← next (endsRange records)) then return mark
    return mark ++ (← rightOperandWithin steps .range)

end

/-- The number of steps for what is left to read. Between two steps that read a token there are at most three others. -/
def operatorSteps : Parser Nat := do return 4 * ((← peek).length + 2)

/-- Reads operators that bind no less than `floor`, with their operands, after the operand on the left. -/
def operators (floor : Precedence) (left : Reading) : Parser Reading := do
  operatorsWithin read records (← operatorSteps) floor left

/-- Reads a range from its mark on. -/
def range : Parser Reading := do
  return { tokens := ← rangeWithin read records (← operatorSteps), shape := .range }

/-- Reads an operand and the operators after it that bind no less than `floor`. -/
def operation (floor : Precedence) : Parser Reading := do
  operators read records floor (← read (.operand records))

end Grammar

end Concord.Source
