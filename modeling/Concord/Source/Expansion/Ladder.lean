import Concord.Source.Parser

/-!
# Ladders of numerals

A ladder names the numerals from zero to its height, each as the successor of the one before.
-/

namespace Concord.Source.Ladder

open Concord.Source.Parser

/-- The largest height. -/
def mostHeight : Nat := 64

/-- A count that fits into 64 bits and is no larger than the largest height. -/
def checkHeight (n : Nat) : Except SyntaxError Nat :=
  if UInt64.size ≤ n then throw .countOverflow
  else if mostHeight < n then throw (.ladderTooHigh n mostHeight)
  else return n

/-- Reads the height of a ladder, an integer literal. -/
def height : Parser Nat := do
  match ← peek with
  | .literal s :: _ =>
    match Literal.integer? s with
    | some n =>
      skip 1
      checkHeight n
    | none => reject [.integerLiteral]
  | .sign '-' _ :: .literal s :: _ =>
    if (Literal.integer? s).isSome then throw .notACount else reject [.integerLiteral]
  | _ => reject [.integerLiteral]

/-- The height that a text gives. -/
def ofText (text : String) : Except SyntaxError Nat := Parser.ofText height text

/-- The name of a numeral. -/
def numeral (n : Nat) : String := "D" ++ toString n

/-- A documented numeralAlias for a numeral. -/
def numeralAlias (note : String) (n : Nat) (value : Spelling) : Spelling :=
  Spelling.sign "#" ++ [.brackets (Spelling.word "doc" ++ Spelling.sign "=" ++ [.literal note])] ++
    Spelling.word "pub" ++ Spelling.word "type" ++ Spelling.word (numeral n) ++ Spelling.sign "=" ++ value ++
    Spelling.sign ";"

/-- The numerals from zero to a height. -/
def expand (max : Nat) : Spelling :=
  numeralAlias "r\" Peano 0\"" 0 (Spelling.word "Z") ++
    (List.range max).flatMap fun m =>
      numeralAlias (Quoted.literal ("Peano " ++ toString (m + 1))) (m + 1)
        (Spelling.word "S" ++ Spelling.sign "<" ++ Spelling.word (numeral m) ++ Spelling.sign ">")

end Concord.Source.Ladder
