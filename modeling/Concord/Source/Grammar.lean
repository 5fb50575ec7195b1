import Concord.Source.Grammar.Statement

/-!
# The grammar of types, expressions, patterns and items

The rules together. A phrase is read with a bound on how deeply phrases are nested in it, which depends on the number of
tokens. The bound is there for reading to end; reading follows the rules as if there were none (`Phrase.read_eq_rule`).
-/

namespace Concord.Source

namespace Phrase

/-- The rule for a phrase, given a reader of the phrases in it. -/
def rule (read : Grammar.Reader) : Phrase → Parser Reading
  | type plus => Grammar.type read plus
  | argument => Reading.ofSpeller (Grammar.genericArgument read)
  | parameter => Reading.ofSpeller (Grammar.boundParameter read)
  | operand records => Grammar.operand read records
  | expression records => Grammar.expression read records
  | standing => Grammar.standing read
  | pattern => Grammar.pattern read
  | statements => Reading.ofSpeller (Grammar.statements read)
  | fields => Reading.ofSpeller (Grammar.namedFields read)
  | imports rooted => Grammar.imports read rooted
  | item => Reading.ofSpeller (Grammar.item read)

/-- Reads a phrase in which phrases are nested at most so deeply. -/
def within : Nat → Phrase → Parser Reading
  | 0, _ => throw .nestedTooDeeply
  | depth + 1, p => rule (within depth) p

/-- How deeply phrases may be nested in some tokens: eight to a token, those in groups counted too, and sixteen more. -/
def depth (ts : Spelling) : Nat := 8 * Token.weights ts + 16

/-- Reads a phrase. -/
def read (p : Phrase) : Parser Reading := do within (depth (← Parser.peek)) p

end Phrase

namespace Parser

/-- Reads a type. -/
def type : Speller := Grammar.typeBy Phrase.read true

/-- Reads the type of a result, which is no sum of bounds. -/
def resultType : Speller := Grammar.typeBy Phrase.read false

/-- Reads a function type. -/
def functionType : Parser FunctionType := Grammar.functionType Phrase.read

end Parser

end Concord.Source
