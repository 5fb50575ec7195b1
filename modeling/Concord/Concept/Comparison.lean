import Concord.Concept.Assignment

/-!
# Concepts on comparison

Two operands compare if both are numbers or convert to one, or if one of them registers the operator for the other's
object or a base of it. Comparison of two types is also asked through their common reference.
-/

namespace Concord

namespace Table

variable {ι : Type} (T : Table ι)

/-- The object is a number or converts to one. -/
def toArithmetic (o : Object ι) : Bool := T.isArithmetic o || T.anyArithmetic (T.convertsTo o)

/-- An operator with the given lists of registered operands exists for two types. -/
def hasOperator (operands : Object ι → List (Object ι)) (t u : Ty ι) : Bool :=
  t.valid && u.valid &&
    ((T.toArithmetic t.object && T.toArithmetic u.object) ||
      (T.anyBaseOf (operands t.object) u.object || T.anyBaseOf (operands u.object) t.object))

/-- The types compare with `==` and `!=`. -/
def hasEquality (t u : Ty ι) : Bool := T.hasOperator T.equality t u

/-- The types compare with `<`, `>`, `<=` and `>=`. -/
def hasOrdering (t u : Ty ι) : Bool := T.hasOperator T.ordering t u

/-- A type that serves as a condition. -/
def boolean (t : Ty ι) : Bool :=
  T.movable t.removeCvref && T.convertibleTo t.constLvalue (.plain T.truth) &&
    T.hasEquality t t && T.hasEquality t (.plain T.truth) && T.hasEquality (.plain T.truth) t

/-- The types compare for equality in both orders. -/
def weaklyEqualityComparableWith (t u : Ty ι) : Bool := T.hasEquality t u && T.hasEquality u t

def equalityComparable (t : Ty ι) : Bool := T.weaklyEqualityComparableWith t t

/-- Two types compare for equality, each with itself, with each other, and through their common reference. -/
def equalityComparableWith (t u : Ty ι) : Bool :=
  T.equalityComparable t && T.equalityComparable u && T.commonReferenceWith t.constLvalue u.constLvalue &&
    T.equalityComparable (T.commonReference t.constLvalue u.constLvalue) &&
    T.weaklyEqualityComparableWith t u

def strictTotallyOrdered (t : Ty ι) : Bool := T.equalityComparable t && T.hasOrdering t t

/-- Two types are ordered, each in itself, with each other, and through their common reference. -/
def strictTotallyOrderedWith (t u : Ty ι) : Bool :=
  T.strictTotallyOrdered t && T.strictTotallyOrdered u &&
    T.commonReferenceWith t.constLvalue u.constLvalue &&
    T.strictTotallyOrdered (T.commonReference t.constLvalue u.constLvalue) &&
    T.equalityComparableWith t u && T.hasOrdering t u && T.hasOrdering u t

/-- A copyable type with equality. -/
def regular (t : Ty ι) : Bool := T.semiregular t && T.equalityComparable t

theorem hasOperator_comm (operands : Object ι → List (Object ι)) (t u : Ty ι) :
    T.hasOperator operands t u = T.hasOperator operands u t := by
  simp only [hasOperator, Bool.and_comm t.valid u.valid,
    Bool.and_comm (T.toArithmetic t.object) (T.toArithmetic u.object),
    Bool.or_comm (T.anyBaseOf (operands t.object) u.object)]

end Table

end Concord
