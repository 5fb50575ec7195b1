import Concord.Source.Identifier
import Concord.Source.Literal.Quoted

/-!
# Number literals

A number is a decimal fraction or an integer in base two, eight, ten or sixteen, with underscores between its digits and
a name as its suffix. The readers answer what follows a number; `integerParts?` answers the value of an integer and its
suffix.
-/

namespace Concord.Source.Number

open Identifier Quoted

def isDecimal (c : Char) : Bool := '0' ≤ c && c ≤ '9'

/-- Reads the digits of a fraction before its exponent, at most one point among them, and says whether there was one. A
point before another point or before a name is not part of a number, which then is no fraction. -/
def mantissa? (pointed : Bool) : List Char → Option (Bool × List Char)
  | [] => some (pointed, [])
  | c :: cs =>
    if isDecimal c || c == '_' then mantissa? pointed cs
    else if c == '.' && !pointed then
      if cs.head?.any fun d => d == '.' || isStart d then none else mantissa? true cs
    else some (pointed, c :: cs)

/-- Reads an exponent after its letter: a sign, if any, then at least one digit. -/
def exponent? (signed digits : Bool) : List Char → Option (List Char)
  | [] => if digits then some [] else none
  | c :: cs =>
    if c == '+' || c == '-' then
      if digits then some (c :: cs) else if signed then none else exponent? true false cs
    else if isDecimal c then exponent? signed true cs
    else if c == '_' then exponent? signed digits cs
    else if digits then some (c :: cs)
    else none

/-- Reads a fraction without its suffix. A letter that no exponent follows is left over. -/
def fraction? (cs : List Char) : Option (List Char) :=
  if cs.head?.any isDecimal then do
    let (pointed, rest) ← mantissa? false cs
    let plain := if pointed then some rest else none
    match rest with
    | c :: after => if c == 'e' || c == 'E' then exponent? false false after <|> plain else plain
    | [] => plain
  else none

/-- The base of an integer and its digits. -/
def base : List Char → Nat × List Char
  | '0' :: 'x' :: cs => (16, cs)
  | '0' :: 'o' :: cs => (8, cs)
  | '0' :: 'b' :: cs => (2, cs)
  | cs => (10, cs)

/-- Reads at least one digit in a base. A decimal digit too large for the base is refused, and a letter ends the number. -/
def digits? (base : Nat) (some? : Bool) : List Char → Option (List Char)
  | [] => if some? then some [] else none
  | c :: cs =>
    if isDecimal c && base ≤ c.toNat - '0'.toNat then none
    else if (hexDigit? c).any (· < base) then digits? base true cs
    else if c == '_' && (some? || base != 10) then digits? base some? cs
    else if some? then some (c :: cs)
    else none

/-- Reads an integer without its suffix. -/
def whole? (cs : List Char) : Option (List Char) := digits? (base cs).1 false (base cs).2

/-- Reads the suffix of a number, which no letter or digit can follow. -/
def suffixed? (cs : List Char) : Option (List Char) :=
  let rest := dropName cs
  if rest.head?.any isContinue then none else some rest

/-- What follows the number that starts a text. -/
def read? (cs : List Char) : Option (List Char) :=
  (fraction? cs).bind suffixed? <|> (whole? cs).bind suffixed?

/-- A text that can be the suffix of a literal: empty or a name. -/
def isSuffix (cs : List Char) : Bool := cs.isEmpty || (split? cs).any (·.2.isEmpty)

/-- The letter before a text of decimal digits makes it the exponent of a fraction. -/
def isExponent (cs : List Char) : Bool :=
  let tail := cs.dropWhile fun c => isDecimal c || c == '_'
  let digits := (cs.takeWhile fun c => isDecimal c || c == '_').any isDecimal
  match tail with
  | [] => digits
  | c :: _ => c == '-' || c == '+' || (digits && isSuffix tail)

/-- The value of the digits of an integer, and its suffix. Nothing if the number is a fraction. -/
def digitsAndSuffix? (base value : Nat) (some? : Bool) : List Char → Option (Nat × List Char)
  | [] => if some? then some (value, []) else none
  | c :: cs =>
    let suffixed := if some? && isSuffix (c :: cs) then some (value, c :: cs) else none
    match hexDigit? c with
    | some d =>
      if d < base then digitsAndSuffix? base (value * base + d) true cs
      else if isDecimal c || (base == 10 && (c == 'e' || c == 'E') && isExponent cs) then none
      else suffixed
    | none =>
      if c == '_' then digitsAndSuffix? base value some? cs
      else if c == '.' && base == 10 then none
      else suffixed

/-- The value and the suffix of an integer literal. -/
def integerParts? (text : String) : Option (Nat × List Char) :=
  let cs := text.toList
  if cs.head?.any isDecimal then digitsAndSuffix? (base cs).1 0 false (base cs).2 else none

end Concord.Source.Number
