import Concord.Identity.Encoding
import Concord.Source.Expansion.Registration
import Concord.Source.Lexer

/-!
# Expansion of identities

The routing stream and the identity of a text are written as types. The nibbles of a string literal are written out as
numbers; those of any other operand are written as calls of the functions that compute them.
-/

namespace Concord.Source

/-- The text whose identity is asked for. -/
inductive TextOperand where
  /-- A string literal that denotes a text. -/
  | literal (text : String)
  /-- Any other tokens. -/
  | deferred (tokens : Spelling)
  deriving Repr

namespace TextOperand

/-- The operand that some tokens are. -/
def ofTokens : Spelling → TextOperand
  | [.literal s] =>
    match Literal.string? s with
    | some text => literal text
    | none => deferred [.literal s]
  | ts => deferred ts

end TextOperand

namespace Expansion

/-- A path in the part of the library that identities are made of. -/
def primitive (names : List String) : Spelling := Spelling.path true (library :: "primitives" :: names)

/-- A number as a literal of a type. -/
def number (n : Nat) (type : String) : Spelling := [.literal (toString n ++ type)]

/-- The call of a function that computes a nibble of an operand. -/
def nibbleCall (function : String) (operand : Spelling) (position : Spelling) : Spelling :=
  [.braces (primitive ["const_utils", function] ++ [.parens (operand ++ Spelling.sign "," ++ position)])]

/-- The stream that repeats sixteen nibbles. -/
def stream (nibbles : List Spelling) : Spelling :=
  primitive ["stream", "HashStream16"] ++ Spelling.sign "<" ++ Spelling.commas nibbles ++ Spelling.sign ">"

/-- A nibble that is written out. -/
def written (n : Nibble) : Spelling := number n.val "u8"

/-- The nibbles of the hash of an operand. -/
def hashNibbles : TextOperand → List Spelling
  | .literal text => (Spelled.hashBlock text).toList.map written
  | .deferred ts => (List.range 16).map fun i => nibbleCall "hash_nibble" ts (number i "u8")

/-- The nibbles of a chunk of the identity of an operand. -/
def chunkNibbles (operand : TextOperand) (chunk : Nat) : List Spelling :=
  match operand with
  | .literal text => (Spelled.chunkBlock text chunk).toList.map written
  | .deferred ts =>
    (List.range Identity.chunkNibbles).map fun i =>
      nibbleCall "identity_nibble" ts (number (chunk * Identity.chunkNibbles + i) "usize")

/-- The routing stream of an operand. -/
def routing (operand : TextOperand) : Spelling := stream (hashNibbles operand)

/-- The end of an identity. -/
def identityEnd : Spelling := primitive ["identity", "IdEnd"]

/-- A chunk in front of the rest of an identity. -/
def identityChunk (nibbles : List Spelling) (rest : Spelling) : Spelling :=
  primitive ["identity", "IdChunk"] ++ Spelling.sign "<" ++ Spelling.commas [stream nibbles, rest] ++
    Spelling.sign ">"

/-- The identity of an operand. -/
def identity (operand : TextOperand) : Spelling :=
  (List.range Identity.textChunks).foldr (fun chunk rest => identityChunk (chunkNibbles operand chunk) rest) identityEnd

end Expansion

end Concord.Source
