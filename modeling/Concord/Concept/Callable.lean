import Concord.Concept.Comparison

/-!
# Concepts on calls

What can be called, and what can be called as a condition on one or two types.
-/

namespace Concord

namespace Table

variable {ι : Type} (T : Table ι)

/-- A call of `callee` with the arguments is well-formed. -/
def invocable (callee : Ty ι) (arguments : Pack ι) : Bool := (T.invokeResult callee arguments).valid

/-- The same condition; that equal arguments give equal results is not checked. -/
def regularInvocable (callee : Ty ι) (arguments : Pack ι) : Bool := T.invocable callee arguments

/-- A call whose result serves as a condition. -/
def predicate (callee : Ty ι) (arguments : Pack ι) : Bool :=
  T.regularInvocable callee arguments && T.boolean (T.invokeResult callee arguments)

/-- A predicate on every pairing of two types. -/
def relation (callee t u : Ty ι) : Bool :=
  T.predicate callee [t, t] && T.predicate callee [u, u] && T.predicate callee [t, u] &&
    T.predicate callee [u, t]

/-- The same condition; that the relation is an order is not checked. -/
def strictWeakOrder (callee t u : Ty ι) : Bool := T.relation callee t u

end Table

end Concord
