import Concord.Source.Declaration
import Concord.Source.Registration.Signature

/-!
# Groups of registration items

A registration attribute holds groups, each a key with a list in parentheses. The key says whether the list has types,
entries of a table, or call signatures.
-/

namespace Concord.Source

/-- An entry of a table: for the type `key`, the type `value`. -/
structure Entry where
  key : Spelling
  value : Spelling
  deriving Repr

namespace Entry

/-- Reads an entry. -/
def parser (readers : Readers) : Parser Entry := do
  let key ← readers.type
  let _ ← Parser.sign "=>"
  return { key, value := ← readers.type }

def spelling (e : Entry) : Spelling := e.key ++ Spelling.sign "=>" ++ e.value

end Entry

namespace Readers

variable (readers : Readers)

/-- Reads a list of types. -/
def typeList : Parser (List Spelling) := Parser.commaSeparated readers.type

/-- Reads a list of entries. -/
def entryList : Parser (List Entry) := Parser.commaSeparated (Entry.parser readers)

/-- Reads a list of call signatures. -/
def signatureList : Parser (List CallSignature) := Parser.commaSeparated (CallSignature.parser readers)

end Readers

namespace Parser

/-- Reads a list of types of the grammar. -/
def typeList : Parser (List Spelling) := Readers.grammar.typeList

/-- Reads a list of entries of types of the grammar. -/
def entryList : Parser (List Entry) := Readers.grammar.entryList

/-- Reads a list of call signatures of types of the grammar. -/
def signatureList : Parser (List CallSignature) := Readers.grammar.signatureList

end Parser

/-- The lists that can be registered for an object. -/
inductive Key where
  | bases
  | convertsTo
  | convertsFrom
  | commonType
  | commonReference
  | equality
  | ordering
  | calls
  deriving DecidableEq, Repr

namespace Key

def all : List Key := [bases, convertsTo, convertsFrom, commonType, commonReference, equality, ordering, calls]

/-- The name of a key in an attribute. -/
def name : Key → String
  | bases => "bases"
  | convertsTo => "converts_to"
  | convertsFrom => "converts_from"
  | commonType => "common_type"
  | commonReference => "common_reference"
  | equality => "eq"
  | ordering => "ord"
  | calls => "invoke"

/-- The key that a path names. -/
def ofPath? (p : NamePath) : Option Key := all.find? fun k => p.isName k.name

theorem ofPath?_name (k : Key) : ofPath? ⟨false, [k.name]⟩ = some k := by
  cases k <;> decide

end Key

/-- A key with the items that are listed for it. -/
inductive KeyGroup where
  | bases (types : List Spelling)
  | convertsTo (types : List Spelling)
  | convertsFrom (types : List Spelling)
  | commonType (entries : List Entry)
  | commonReference (entries : List Entry)
  | equality (types : List Spelling)
  | ordering (types : List Spelling)
  | calls (signatures : List CallSignature)
  deriving Repr

namespace KeyGroup

open Concord.Source.Parser

def key : KeyGroup → Key
  | bases _ => .bases
  | convertsTo _ => .convertsTo
  | convertsFrom _ => .convertsFrom
  | commonType _ => .commonType
  | commonReference _ => .commonReference
  | equality _ => .equality
  | ordering _ => .ordering
  | calls _ => .calls

/-- Reads a further word of a path. -/
def laterWord : Parser String := do
  let _ ← sign "::"
  anyWord

/-- Reads a path as a key, of any words. -/
def keyPath : Parser NamePath := do
  let rooted ← optionalSign "::"
  let ts ← peek
  if ts.isEmpty then reject [.entry]
  else if ts.startsAnyWord then
    let first ← anyWord
    let others ← repeated (Spelling.startsSign "::") laterWord
    return ⟨!rooted.isEmpty, first :: others⟩
  else if ts.startsLiteral then throw .literalEntry
  else throw .nonWordEntry

variable (readers : Readers)

/-- Reads the items for a key. -/
def itemsOf : Key → Parser KeyGroup
  | .bases => bases <$> readers.typeList
  | .convertsTo => convertsTo <$> readers.typeList
  | .convertsFrom => convertsFrom <$> readers.typeList
  | .commonType => commonType <$> readers.entryList
  | .commonReference => commonReference <$> readers.entryList
  | .equality => equality <$> readers.typeList
  | .ordering => ordering <$> readers.typeList
  | .calls => calls <$> readers.signatureList

/-- Reads the items for the key that a path names. -/
def itemsFor (path : NamePath) : Parser KeyGroup :=
  match Key.ofPath? path with
  | some k => itemsOf readers k
  | none => throw (.unknownKey (Key.all.map Key.name))

/-- Reads a group. -/
def parser : Parser KeyGroup := do group .parenthesis (itemsFor readers (← keyPath))

end KeyGroup

namespace Attribute

/-- The path of the attributes that register. -/
def registering : String := "object"

/-- The attribute registers. -/
def isRegistering (a : Attribute) : Bool := a.path.isName registering

/-- The groups in an attribute. -/
def groups (readers : Readers) (a : Attribute) : Except SyntaxError (List KeyGroup) :=
  match a.arguments with
  | .nothing => throw (.argumentsMissing registering)
  | .value _ => throw (.valueForArguments registering)
  | .group _ content => Parser.runAll (Parser.commaSeparated (KeyGroup.parser readers)) content

end Attribute

namespace Declaration

/-- The groups in the attributes of a declaration that register, in order. -/
def groups (readers : Readers) (d : Declaration) : Except SyntaxError (List KeyGroup) := do
  return (← (d.attributes.filter Attribute.isRegistering).mapM (Attribute.groups readers)).flatten

end Declaration

end Concord.Source
