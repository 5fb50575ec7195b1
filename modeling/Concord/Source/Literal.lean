import Concord.Source.Literal.Quoted
import Concord.Source.Literal.Number

/-!
# Literals

A literal is a quoted text or character, or a number, with a name as its suffix.
-/

namespace Concord.Source.Literal

/-- What follows the literal that starts a text. -/
def after? (cs : List Char) : Option (List Char) :=
  ((Quoted.read? cs).map fun (_, rest) => Identifier.dropName rest) <|> Number.read? cs

/-- The text that a literal denotes, if it denotes a text. -/
def string? (literal : String) : Option String :=
  (Quoted.text? literal.toList).map fun (content, _) => String.ofList content

/-- The integer that a literal denotes and its suffix, if it denotes one. -/
def integerParts? (literal : String) : Option (Nat × String) :=
  (Number.integerParts? literal).map fun (value, suffix) => (value, String.ofList suffix)

/-- The integer that a literal denotes, if it denotes one. -/
def integer? (literal : String) : Option Nat := (integerParts? literal).map (·.1)

/-- What stands for a literal that could not be read. It is a literal by itself, and no group. -/
def placeholder : String := "(/*ERROR*/)"

/-- A literal that starts with a digit. -/
def isNumber (literal : String) : Bool := literal.toList.head?.any Number.isDecimal

end Concord.Source.Literal
