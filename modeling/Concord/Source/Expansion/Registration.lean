import Concord.Source.Registration.Lists

/-!
# Expansion of a registering declaration

A declaration expands to one invocation that registers its name with its eight lists, or to one that reports why it
cannot be registered.
-/

namespace Concord.Source

namespace Expansion

/-- The root of the paths in expansions. -/
def library : String := "tola_concepts"

/-- A label with its value, ended by a comma. -/
def field (label : String) (value : Spelling) : Spelling :=
  Spelling.word label ++ Spelling.sign ":" ++ value ++ Spelling.sign ","

/-- A label with a list in brackets. -/
def listField (label : String) (items : List Spelling) : Spelling :=
  field label [.brackets (Spelling.commas items)]

/-- The eight lists with their labels, after the kind of the object. -/
def fields (l : ObjectLists) : Spelling :=
  field "kind" (Spelling.path true [library, "Class"]) ++
    listField "bases" l.bases ++
    listField "converts_to" l.convertsTo ++
    listField "converts_from" l.convertsFrom ++
    listField "common_type" (l.commonType.map Entry.spelling) ++
    listField "common_reference" (l.commonReference.map Entry.spelling) ++
    listField "equality" l.equality ++
    listField "ordering" l.ordering ++
    listField "invoke" (l.calls.map CallSignature.spelling)

/-- The invocation that registers an object. -/
def register (name : String) (l : ObjectLists) : Spelling :=
  Spelling.path true [library, "impl_object"] ++ Spelling.sign "!" ++
    [.parens [.word name, .braces (fields l)]] ++ Spelling.sign ";"

/-- The invocation that reports a refusal. -/
def refuse (e : SyntaxError) : Spelling :=
  Spelling.path true ["core", "compile_error"] ++ Spelling.sign "!" ++ [.braces [.literal (Quoted.literal e.message)]]

end Expansion

namespace Declaration

variable {readers : Readers} {d : Declaration}

/-- What a declaration expands to, by some readers of types. -/
def expandBy (readers : Readers) (d : Declaration) : Spelling :=
  match d.lists readers with
  | .ok l => Expansion.register d.name l
  | .error e => Expansion.refuse e

/-- What a declaration expands to, by the readers of the grammar. -/
def expand (d : Declaration) : Spelling := d.expandBy .grammar

end Declaration

end Concord.Source
