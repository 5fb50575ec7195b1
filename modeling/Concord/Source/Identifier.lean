import Concord.Source.Identifier.Letters

/-!
# Names and blanks

A name starts with a letter or an underscore and goes on with letters, digits, marks and underscores. Reserved words
have the form of names but name nothing.
-/

namespace Concord.Source

namespace Identifier

/-- A character with which a name can start. -/
def isStart (c : Char) : Bool :=
  if c.toNat < 128 then c.isAlpha || c == '_' else isWideStart c

/-- A character with which a name can go on. -/
def isContinue (c : Char) : Bool :=
  if c.toNat < 128 then c.isAlphanum || c == '_' else isWideContinue c

/-- The name that a text starts with, and the rest of the text. -/
def split? : List Char → Option (List Char × List Char)
  | c :: cs => if isStart c then some (c :: cs.takeWhile isContinue, cs.dropWhile isContinue) else none
  | [] => none

/-- What is left of a text after the name that it starts with; all of it if it starts with none. -/
def dropName (cs : List Char) : List Char := ((split? cs).map (·.2)).getD cs

/-- Words that are no identifiers. -/
def reservedWords : List String :=
  ["_", "abstract", "as", "async", "await", "become", "box", "break", "const", "continue", "crate", "do", "dyn", "else",
    "enum", "extern", "false", "final", "fn", "for", "if", "impl", "in", "let", "loop", "macro", "match", "mod", "move",
    "mut", "override", "priv", "pub", "ref", "return", "Self", "self", "static", "struct", "super", "trait", "true",
    "try", "type", "typeof", "unsafe", "unsized", "use", "virtual", "where", "while", "yield"]

/-- A word that is not reserved. -/
def isIdentifier (word : String) : Bool := !reservedWords.contains word

/-- Words that cannot be written as raw names. -/
def neverRaw : List String := ["_", "super", "self", "Self", "crate"]

end Identifier

/-- A character between tokens: Unicode white space, and the two marks of writing direction. -/
def isBlank (c : Char) : Bool :=
  let n := c.toNat
  (9 ≤ n && n ≤ 13) || n == 32 || n == 0x85 || n == 0xa0 || n == 0x1680 || (0x2000 ≤ n && n ≤ 0x200a) || n == 0x200e ||
    n == 0x200f || n == 0x2028 || n == 0x2029 || n == 0x202f || n == 0x205f || n == 0x3000

end Concord.Source
