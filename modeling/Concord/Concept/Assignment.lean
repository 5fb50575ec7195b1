import Concord.Concept.Construction

/-!
# Concepts on assignment and swapping

An lvalue that is not `const` can be assigned whatever converts to its object; the assignment has the type of the
lvalue. Swapping is moving both ways. The object concepts combine these with construction.
-/

namespace Concord

namespace Table

variable {ι : Type} (T : Table ι)

/-- The type of an assignment of `right` to `left`, or the sentinel. -/
def assignment (left right : Ty ι) : Ty ι :=
  if left.isLvalue && (!left.cv.isConst && T.convertible right (.plain left.object)) then left else .nonesuch

/-- An assignment is well-formed and has the type of its left side. -/
def assigns (left right : Ty ι) : Bool :=
  (T.assignment left right).valid && T.same (T.assignment left right) left

/-- An lvalue can be assigned from an expression with which it has a common reference. -/
def assignable (left right : Ty ι) : Bool :=
  left.isLvalue && T.commonReferenceWith left.constLvalue right.constLvalue && T.assigns left right

/-- Lvalues of a type can be swapped: the type can be moved from and moved to. -/
def swappable (t : Ty ι) : Bool :=
  T.moveConstructible t.removeReference && T.assigns t.removeReference.addLvalueReference t.rvalue

/-- Two expressions can be swapped: they are lvalues of one type that can be swapped. -/
def swapExpression (t u : Ty ι) : Bool :=
  (t.isLvalue && u.isLvalue) && T.same t.removeReference u.removeReference && T.swappable t.removeReference

/-- Expressions of two types can be swapped with themselves and with each other. -/
def swappableWith (t u : Ty ι) : Bool :=
  T.swapExpression t t && T.swapExpression u u && T.commonReferenceWith t.constLvalue u.constLvalue &&
    T.swapExpression t u && T.swapExpression u t

/-- A type whose values can be moved and swapped. -/
def movable (t : Ty ι) : Bool :=
  (t.valid && t.isPrvalue) && T.moveConstructible t && T.assignable t.addLvalueReference t && T.swappable t

/-- A type whose values can be copied. -/
def copyable (t : Ty ι) : Bool :=
  T.copyConstructible t && T.movable t && T.assignable t.addLvalueReference t.asConstLvalue

def semiregular (t : Ty ι) : Bool := T.copyable t && T.defaultConstructible t

end Table

end Concord
