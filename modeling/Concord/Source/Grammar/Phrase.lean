import Concord.Source.Parser

/-!
# Phrases of the grammar

The grammar refers to itself through a few phrases. Each rule of it is a definition of its own that is given a reader of
phrases, and `Phrase.read` ties the knot over the rules.
-/

namespace Concord.Source

/-- The phrases through which the grammar refers to itself. -/
inductive Phrase where
  /-- A type; `plus` says that a list of bounds can be a type here. -/
  | type (plus : Bool)
  /-- A generic argument other than a lifetime. -/
  | argument
  /-- A generic parameter in a binder. -/
  | parameter
  /-- An operand of an expression, with all that binds to it more tightly than a binary operator; `records` says that
  braces after a path hold the fields of a value. -/
  | operand (records : Bool)
  | expression (records : Bool)
  /-- An expression that stands by itself, as a statement or in an arm. One that ends in a block is complete there. -/
  | standing
  | pattern
  /-- What a block holds. -/
  | statements
  /-- Fields with names, in braces. -/
  | fields
  /-- What is imported; `rooted` says that groups of it can hold paths with a double colon in front. -/
  | imports (rooted : Bool)
  | item
  deriving DecidableEq, Repr

/-- What the rules need to know of a phrase that they have read. -/
inductive Shape where
  /-- A type that is one name, with arguments or not. -/
  | name
  /-- A type that is another path, with nothing qualified. -/
  | path
  /-- A type that is a single bound. -/
  | bound
  /-- An expression that is a block or ends in one that belongs to it. -/
  | block
  /-- An invocation of a rewriting rule, with its arguments in braces or not. -/
  | invocation (braced : Bool)
  | comparison
  | range
  /-- A pattern that is a range without start or without end. -/
  | openRange
  /-- A phrase that stays as it is written. -/
  | asWritten
  /-- Anything else. -/
  | other
  deriving DecidableEq, Repr

/-- A phrase as it is spelled again. -/
structure Reading where
  tokens : Spelling
  shape : Shape := .other
  /-- The first operand stays as it is written. -/
  opensAsWritten : Bool := false
  deriving Repr

namespace Reading

/-- A phrase of which only the tokens are needed. -/
def ofSpeller (p : Speller) : Parser Reading := do return { tokens := ← p }

/-- A range of any kind. -/
def isRange (r : Reading) : Bool := r.shape == .range || r.shape == .openRange

/-- The phrase with attributes in front of it. One that stays as it is written has no place for them, and a range gets
parentheses. -/
def noted (notes : Spelling) (r : Reading) : Spelling :=
  if notes.isEmpty then r.tokens
  else if r.isRange then notes ++ [.parens r.tokens]
  else if r.opensAsWritten then r.tokens
  else notes ++ r.tokens

end Reading

namespace Grammar

/-- A reader for each phrase. -/
abbrev Reader := Phrase → Parser Reading

/-- Reads a phrase and spells it. -/
def spelledBy (read : Reader) (p : Phrase) : Speller := do return (← read p).tokens

/-- Reads a type by a reader of phrases. -/
def typeBy (read : Reader) (plus : Bool) : Speller := spelledBy read (.type plus)

/-- Reads an expression by a reader of phrases. -/
def expressionBy (read : Reader) (records : Bool) : Speller := spelledBy read (.expression records)

/-- Reads a whole block, with what is in front of its statements. -/
def blockBy (read : Reader) (front : Speller) : Speller := Parser.grouped .brace (front ++ spelledBy read .statements)

/-- Reads a plain block. -/
def block (read : Reader) : Speller := blockBy read (pure [])

end Grammar

end Concord.Source
