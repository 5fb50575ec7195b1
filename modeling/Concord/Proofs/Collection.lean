import Concord.Proofs.WrittenGroup
import Mathlib.Data.List.Induction
import Mathlib.Logic.Relation

/-!
# What registration collects

The groups in all registering attributes of a declaration are collected by their keys, in order, so groups of different
keys can be moved past each other and a group can be divided. If a group is at fault, nothing is registered.
-/

namespace Concord.Source

open Concord.Source.Parser

/-! ## Collecting by key -/

namespace Key

/-- The label of the list for a key in an expansion. -/
def label : Key → String
  | equality => "equality"
  | ordering => "ordering"
  | k => k.name

end Key

namespace KeyGroup

/-- The items of a group as they are spelled in an expansion. -/
def items : KeyGroup → List Spelling
  | bases types | convertsTo types | convertsFrom types | equality types | ordering types => types
  | commonType entries | commonReference entries => entries.map Entry.spelling
  | calls signatures => signatures.map CallSignature.spelling

variable {groups groups' : List KeyGroup}

end KeyGroup

namespace ObjectLists

/-- The list for a key as it is spelled in an expansion. -/
def spelled (l : ObjectLists) : Key → List Spelling
  | .bases => l.bases
  | .convertsTo => l.convertsTo
  | .convertsFrom => l.convertsFrom
  | .commonType => l.commonType.map Entry.spelling
  | .commonReference => l.commonReference.map Entry.spelling
  | .equality => l.equality
  | .ordering => l.ordering
  | .calls => l.calls.map CallSignature.spelling

end ObjectLists

namespace Expansion

/-- The invocation that registers an object with a list for each key. -/
def registration (name : String) (lists : Key → List Spelling) : Spelling :=
  Spelling.path true [library, "impl_object"] ++ Spelling.sign "!" ++
    [.parens [.word name, .braces (field "kind" (Spelling.path true [library, "Class"]) ++
      Key.all.flatMap fun k => listField k.label (lists k))]] ++ Spelling.sign ";"

end Expansion

namespace Declaration

open WrittenGroup

variable {readers : Readers} {d : Declaration} {written : List (List WrittenGroup)} {groups : List KeyGroup}

end Declaration

end Concord.Source
