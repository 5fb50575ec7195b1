import Concord.Bound

/-!
# Native types of the catalogue

Four types that implement none, one, some and all of the traits that bounds ask for.
-/

namespace Concord

namespace Catalogue

/-- A native type of the catalogue. -/
inductive Native where
  | bare
  | cloned
  | token
  | full
  deriving DecidableEq, Repr

namespace Native

/-- What the native types implement. Every type is made from itself. -/
def implementations : Implementations Native where
  has
    | bare, _ => false
    | cloned, b => b == .clone
    | token, b => [Bound.clone, .debug, .partialEq].contains b
    | full, _ => true
  madeFrom target source := target == source || (target, source) ∈ [(full, cloned), (bare, token)]
  comparesWith left right := (left, right) ∈ [(token, token), (token, bare), (full, full)]

end Native

end Catalogue

end Concord
