import Concord.Detection

/-!
# Concepts on common types and numbers

The conditions that relate two types through derivation, conversion and what they have in common, and the conditions on
integral types. Each is a conjunction that is checked from left to right.
-/

namespace Concord

namespace Table

variable {ι : Type} (T : Table ι)

/-- The types denote the same type, asked in both orders. -/
def same (t u : Ty ι) : Bool := T.isSame t u && T.isSame u t

/-- `d` is a class that is `b` or derives from it. -/
def derivedFrom (d b : Ty ι) : Bool := T.isBaseOf b d

/-- An expression of type `source` converts implicitly to `target`. -/
def convertibleTo (source target : Ty ι) : Bool := T.convertible source target

/-- Two types have one common reference in both orders, to which both convert. -/
def commonReferenceWith (t u : Ty ι) : Bool :=
  let r := T.commonReference t u
  T.same r (T.commonReference u t) && T.convertibleTo t r && T.convertibleTo u r

/-- Two types have one common type in both orders, to which both convert and which agrees with the common reference of
their `const` lvalues. -/
def commonWith (t u : Ty ι) : Bool :=
  let c := T.commonType t u
  let t' := t.asConstLvalue
  let u' := u.asConstLvalue
  T.same c (T.commonType u t) && T.convertibleTo t c && T.convertibleTo u c &&
    T.commonReferenceWith t' u' && T.commonReferenceWith c.addLvalueReference (T.commonReference t' u')

/-- An integral type that is no reference. -/
def integral (t : Ty ι) : Bool := T.isIntegral t.object && t.isPrvalue

def signedIntegral (t : Ty ι) : Bool := T.integral t && T.isSigned t.object

def unsignedIntegral (t : Ty ι) : Bool := T.integral t && T.isUnsigned t.object

end Table

end Concord
