import Concord.Ty.Basic

/-!
# Notation of types

A type is written as its qualifiers, the path of its object, and its reference mark, such as `const volatile a::S&&`.
The spelling with trivial decorations is set apart as `Qual<a::S>`, so that every spelling has its own text.
-/

namespace Concord

namespace Object

variable {ι : Type}

/-- The text of an object, given the paths of the registered ones. -/
def text (path : ι → String) : Object ι → String
  | nonesuch => "nonesuch"
  | registered i => path i

/-- The object with a text, if there is one. -/
def ofText? (find : String → Option ι) (text : String) : Option (Object ι) :=
  if text = "nonesuch" then some .nonesuch else (find text).map .registered

end Object

namespace Ty

variable {ι : Type}

/-- The text of a type, given the paths of the registered objects. -/
def text (path : ι → String) : Ty ι → String
  | plain o => o.text path
  | qualified o c k =>
    if c = .unqualified ∧ k = .none then "Qual<" ++ o.text path ++ ">"
    else c.lead ++ o.text path ++ k.mark

/-- The rest of a list of characters after a given beginning. -/
def stripStart? (start cs : List Char) : Option (List Char) :=
  if start.isPrefixOf cs then some (cs.drop start.length) else none

/-- The part of a list of characters before a given end. -/
def stripEnd? (ending cs : List Char) : Option (List Char) :=
  (stripStart? ending.reverse cs.reverse).map List.reverse

/-- A list of characters without a given beginning, and whether it was there. -/
def takeStart (start cs : List Char) : Bool × List Char :=
  match stripStart? start cs with
  | some rest => (true, rest)
  | none => (false, cs)

/-- The type with a text, if there is one. -/
def ofText? (find : String → Option ι) (text : String) : Option (Ty ι) :=
  let cs := text.toList
  match (stripStart? "Qual<".toList cs).bind (stripEnd? ">".toList) with
  | some inner => (Object.ofText? find (String.ofList inner)).map (qualified · .unqualified .none)
  | none =>
    let (isConst, cs) := takeStart "const ".toList cs
    let (isVolatile, cs) := takeStart "volatile ".toList cs
    let (kind, cs) :=
      match stripEnd? "&&".toList cs, stripEnd? "&".toList cs with
      | some rest, _ => (RefKind.rvalue, rest)
      | none, some rest => (RefKind.lvalue, rest)
      | none, none => (RefKind.none, cs)
    (Object.ofText? find (String.ofList cs)).map fun o =>
      if isConst || isVolatile || kind.isReference then qualified o ⟨isConst, isVolatile⟩ kind else plain o

end Ty

end Concord
