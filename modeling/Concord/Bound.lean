/-!
# Bounds on native types

Types outside the model implement traits. A bound asks for traits of one type; a clause asks for bounds of a parameter
or for a relation between two. All of them have to hold for the types that the parameters stand for.
-/

namespace Concord

/-- A trait without arguments, or with the type itself as its argument. -/
inductive Bound where
  | clone
  | copy
  | debug
  | default
  | partialEq
  | eq
  | partialOrd
  | ord
  deriving DecidableEq, Repr

/-- What the native types `τ` implement. -/
structure Implementations (τ : Type) where
  has : τ → Bound → Bool
  /-- The first type is made from the second. -/
  madeFrom : τ → τ → Bool
  /-- The first type compares with the second for equality. -/
  comparesWith : τ → τ → Bool

/-- A clause on parameters `π`. -/
inductive BoundClause (π : Type) where
  | bounds (parameter : π) (bounds : List Bound)
  | madeFrom (target source : π)
  | comparesWith (left right : π)

namespace Implementations

variable {τ π : Type} (I : Implementations τ)

/-- A type has all bounds of a list. -/
def hasAll (t : τ) (bounds : List Bound) : Bool := bounds.all (I.has t)

/-- A clause holds for the types that the parameters stand for. -/
def clauseHolds (argument : π → τ) : BoundClause π → Bool
  | .bounds p bounds => I.hasAll (argument p) bounds
  | .madeFrom target source => I.madeFrom (argument target) (argument source)
  | .comparesWith left right => I.comparesWith (argument left) (argument right)

/-- All clauses of a list hold. -/
def allHold (argument : π → τ) (clauses : List (BoundClause π)) : Bool :=
  clauses.all (I.clauseHolds argument)

end Implementations

end Concord
