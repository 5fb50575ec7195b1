import Concord.Pack

/-!
# Calls

The result of calling an object is that of the first of its signatures that accepts the arguments.
-/

namespace Concord

namespace Table

variable {ι : Type} (T : Table ι)

/-- Parameters accept as many arguments as there are parameters, each of which converts to its parameter. -/
def accepts : List (Ty ι) → Pack ι → Bool
  | [], arguments => arguments.isEmpty
  | p :: parameters, arguments =>
    !arguments.isEmpty && (T.convertible (Pack.first arguments) p && accepts parameters (Pack.rest arguments))

/-- The type of a call of `callee`, or the sentinel. A signature that accepts the arguments hides all later ones, even
if its own result is invalid. -/
def invokeResult (callee : Ty ι) (arguments : Pack ι) : Ty ι :=
  match (T.calls callee.object).find? (T.accepts ·.parameters arguments) with
  | some signature => signature.result.canon
  | none => .nonesuch

@[simp] theorem accepts_nil (arguments : Pack ι) : T.accepts [] arguments = arguments.isEmpty := rfl

@[simp] theorem accepts_cons_nil (p : Ty ι) (parameters : List (Ty ι)) :
    T.accepts (p :: parameters) [] = false := rfl

@[simp] theorem accepts_cons_cons (p a : Ty ι) (parameters : List (Ty ι)) (arguments : Pack ι) :
    T.accepts (p :: parameters) (a :: arguments) =
      (T.convertible a p && T.accepts parameters arguments) := rfl

end Table

end Concord
