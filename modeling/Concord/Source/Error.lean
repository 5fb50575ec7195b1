import Concord.Source.Token

/-!
# Causes of refusal

What can be wrong with source text, as causes; `SyntaxError.message` words them.
-/

namespace Concord.Source

/-- What a reader looks for. -/
inductive Sought where
  /-- A reserved word or a sign. -/
  | token (text : String)
  /-- A word that is not reserved. -/
  | identifier
  /-- A word, reserved or not. -/
  | anyWord
  | lifetime
  | group (delimiter : Delimiter)
  | anyGroup
  | literal
  | stringLiteral
  | integerLiteral
  | expression
  | member
  /-- What a label can stand before. -/
  | loopOrBlock
  /-- The end of a closed range. -/
  | upperBound
  /-- A name that what is imported gets. -/
  | identifierOrUnderscore
  | entry
  | pathSegment
  deriving DecidableEq, Repr

/-- The noun for what is looked for. -/
def Sought.noun : Sought → String
  | token text => "`" ++ text ++ "`"
  | identifier => "identifier"
  | anyWord => "ident"
  | lifetime => "lifetime"
  | group .parenthesis => "parentheses"
  | group .brace => "curly braces"
  | group .bracket => "square brackets"
  | anyGroup => "delimiter"
  | literal => "literal"
  | stringLiteral => "string literal"
  | integerLiteral => "integer literal"
  | expression => "an expression"
  | member => "identifier or integer"
  | loopOrBlock => "loop or block expression"
  | upperBound => "range upper bound"
  | identifierOrUnderscore => "identifier or underscore"
  | entry => "nested attribute"
  | pathSegment => "path segment after `::`"

/-- What a cast cannot be followed by. -/
inductive AfterCast where
  | await
  | methodCall
  | fieldAccess
  | question
  | index
  | call
  deriving DecidableEq, Repr

def AfterCast.noun : AfterCast → String
  | await => "`.await`"
  | methodCall => "a method call"
  | fieldAccess => "a field access"
  | question => "`?`"
  | index => "indexing"
  | call => "a function call"

/-- Why source text is refused. -/
inductive SyntaxError where
  /-- The text does not divide into tokens. -/
  | notTokens
  /-- None of what is looked for is next; `atEnd` says that nothing is. -/
  | expected (atEnd : Bool) (sought : List Sought)
  /-- A reserved word stands where a name is needed. -/
  | reserved (word : String)
  /-- Tokens are left over, in a group of that delimiter or after all. -/
  | leftOver (within : Option Delimiter)
  /-- A trait object that names lifetimes only. -/
  | objectWithoutTrait
  /-- An opaque type that names no trait. -/
  | opaqueWithoutTrait
  | captureNotAllowed
  | constNotAllowed (bracketed : Bool)
  /-- A binder before an optional bound. -/
  | binderOnOptional
  | chainedComparison
  | afterCast (what : AfterCast)
  /-- Attributes before a range without start. -/
  | rangeAttributes
  /-- A labelled loop or block right after `break`. -/
  | parenthesesRequired
  /-- A number with a suffix as the name of a field. -/
  | suffixedMember
  /-- A statement after one that has no end. -/
  | statementNotEnded
  /-- A range without start or end among the parts of a slice. -/
  | openRangeInSlice
  /-- Generic parameters of conditions. -/
  | genericConditions
  | secondReceiver
  /-- A receiver after other parameters. -/
  | lateReceiver
  /-- A negative implementation of no trait. -/
  | negativeInherent
  | attributeInAttribute
  /-- An attribute entry that starts with a literal. -/
  | literalEntry
  /-- An attribute entry that starts with a sign or a group. -/
  | nonWordEntry
  /-- An attribute without arguments, by its path. -/
  | argumentsMissing (path : String)
  /-- An attribute with a value for arguments. -/
  | valueForArguments (path : String)
  /-- An entry key that is none of the known ones. -/
  | unknownKey (known : List String)
  | variadicSignature
  | tooManyParameters (most : Nat)
  | returnTypeMissing
  | genericDeclaration
  | unionDeclaration
  /-- A number with a sign where a count is needed. -/
  | notACount
  /-- A count that needs more bits than there are. -/
  | countOverflow
  | ladderTooHigh (height most : Nat)
  /-- Phrases are nested more deeply than the reader was prepared for. -/
  | nestedTooDeeply
  deriving DecidableEq, Repr

namespace SyntaxError

/-- Nouns of which one is needed. -/
def alternatives : List String → String
  | [] => ""
  | [a] => a
  | [a, b] => a ++ " or " ++ b
  | as => "one of: " ++ ", ".intercalate as

/-- The wording of each cause. -/
def message : SyntaxError → String
  | notTokens => "cannot parse string into token stream"
  | expected true [] => "unexpected end of input"
  | expected false [] => "unexpected token"
  | expected true sought => "unexpected end of input, expected " ++ alternatives (sought.map Sought.noun)
  | expected false sought => "expected " ++ alternatives (sought.map Sought.noun)
  | reserved word => "expected identifier, found keyword `" ++ word ++ "`"
  | leftOver none => "unexpected token"
  | leftOver (some d) => "unexpected token, expected `" ++ d.closing.toString ++ "`"
  | objectWithoutTrait => "at least one trait is required for an object type"
  | opaqueWithoutTrait => "at least one trait must be specified"
  | captureNotAllowed => "`use<...>` precise capturing syntax is not allowed here"
  | constNotAllowed true => "`[const]` is not allowed here"
  | constNotAllowed false => "`const` is not allowed here"
  | binderOnOptional => "`for<...>` binder not allowed with `?` trait polarity modifier"
  | chainedComparison => "comparison operators cannot be chained"
  | afterCast what => "casts cannot be followed by " ++ what.noun
  | rangeAttributes => "attributes are not allowed on range expressions starting with `..`"
  | parenthesesRequired => "parentheses required"
  | suffixedMember => "expected unsuffixed integer"
  | statementNotEnded => "unexpected token, expected `;`"
  | openRangeInSlice => "range pattern is not allowed unparenthesized inside slice pattern"
  | genericConditions => "generic parameters on `where` clauses are reserved for future use"
  | secondReceiver => "unexpected second method receiver"
  | lateReceiver => "unexpected method receiver"
  | negativeInherent => "inherent impls cannot be negative"
  | attributeInAttribute => "unexpected attribute inside of attribute"
  | literalEntry => "unexpected literal in nested attribute, expected ident"
  | nonWordEntry => "unexpected token in nested attribute, expected ident"
  | argumentsMissing path => "expected attribute arguments in parentheses: #[" ++ path ++ "(...)]"
  | valueForArguments path => "expected parentheses: #[" ++ path ++ "(...)]"
  | unknownKey known => "unknown `object` key, expected one of: " ++ ", ".intercalate known
  | variadicSignature => "variadic signatures are not supported"
  | tooManyParameters most => "at most " ++ toString most ++ " parameters are supported"
  | returnTypeMissing => "expected a return type, e.g. `fn(A) -> bool`"
  | genericDeclaration =>
    "`Object` cannot be derived for generic types; register each instantiation with a newtype"
  | unionDeclaration => "`Object` can only be derived for structs and enums"
  | notACount => "invalid digit found in string"
  | countOverflow => "number too large to fit in target type"
  | ladderTooHigh height most => "peano! depth " ++ toString height ++ " exceeds " ++ toString most
  | nestedTooDeeply => "nested too deeply"

end SyntaxError

end Concord.Source
