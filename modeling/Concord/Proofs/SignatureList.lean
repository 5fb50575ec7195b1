import Concord.Call
import Concord.Proofs.Collection

/-!
# Lists of call signatures

A list of function types is accepted exactly if each of them can be a call signature; the first one that cannot is at fault
otherwise. So a signature that an expansion registers has a type for its result, and as many parameters as there are tuples
for.
-/

namespace Concord.Source

open Concord.Source.Parser

variable {readers : Readers} {ts rest : Spelling}

/-! ## One after the other -/

namespace CallSignature

variable {fs : List FunctionType}

end CallSignature

/-! ## Types of a signature -/

namespace CallSignature

end CallSignature

/-! ## What is registered -/

namespace Declaration

variable {d : Declaration} {l : ObjectLists} {s : CallSignature}

end Declaration

namespace CallSignature

/-- A function type with a named parameter and one without a name. -/
def binary : FunctionType where
  lead := []
  parameters := [(⟨[], Spelling.word "a" ++ Spelling.sign ":", Spelling.word "A"⟩, Spelling.sign ","),
    (⟨[], [], Spelling.word "B"⟩, [])]
  variadic := none
  result := some (Spelling.word "C")

/-- Function types with a comma after each. -/
def written (fs : List FunctionType) : Spelling := fs.flatMap fun f => f.spelling ++ Spelling.sign ","

end CallSignature

end Concord.Source
