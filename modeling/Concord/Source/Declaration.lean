import Concord.Source.Grammar

/-!
# Declarations of types

A declaration of a structure, an enumeration or a union, as far as registering it needs: its attributes, its form, its
name, and whether it has generic parameters. What else it holds is read for its form only.
-/

namespace Concord.Source

/-- The forms of a declared type. -/
inductive DeclarationForm where
  | record
  | enumeration
  | union
  deriving DecidableEq, Repr

/-- A declared type. -/
structure Declaration where
  attributes : List Attribute
  form : DeclarationForm
  name : String
  isGeneric : Bool
  deriving Repr

namespace Declaration

open Concord.Source.Parser

/-- Reads a declaration from its keyword on. Its body is read for its form only. -/
def rest (attributes : List Attribute) (form : DeclarationForm) (body : Speller) : Parser Declaration := do
  let _ ← anyWord
  let name ← identifier
  let parameters ← Grammar.generics Phrase.read
  let _ ← body
  return { attributes, form, name, isGeneric := !parameters.isEmpty }

/-- Reads a declaration. -/
def parser : Parser Declaration := do
  let attributes ← Grammar.attributes Phrase.read
  let _ ← Grammar.visibility
  choose
    [(.token "struct", Spelling.startsWord "struct", rest attributes .record (Grammar.structureBody Phrase.read)),
      (.token "enum", Spelling.startsWord "enum", rest attributes .enumeration (Grammar.enumerationBody Phrase.read)),
      (.token "union", Spelling.startsWord "union", rest attributes .union (Grammar.unionBody Phrase.read))]

/-- The declaration that a text is. -/
def ofText (text : String) : Except SyntaxError Declaration := Parser.ofText parser text

end Declaration

end Concord.Source
