import Concord.Call

/-!
# Detection

An operation maps a pack to a type, and to the sentinel where the expression it stands for is not well-formed. So a
failed operation is an answer, and can be asked about.
-/

namespace Concord

/-- The operations that detection knows. -/
inductive Operation where
  /-- The common type of the pack. -/
  | commonType
  /-- The common reference of the pack. -/
  | commonReference
  /-- The conditional operator on two operands. -/
  | conditional
  /-- The call of the first element on the others. -/
  | invokeResult
  | decay
  | constLvalue
  | rvalue
  | removeCvref
  /-- An lvalue of the first element, however many there are. -/
  | lvalueOf
  /-- An lvalue of the only element, if that is not `const`. -/
  | mutableLvalue
  deriving DecidableEq, Repr

namespace Table

variable {ι : Type} (T : Table ι)

/-- A transform as an operation on packs of one element. -/
def unary (f : Ty ι → Ty ι) (args : Pack ι) : Ty ι := if args.length = 1 then f args.first else .nonesuch

/-- The result of an operation, or the sentinel. -/
def detected : Operation → Pack ι → Ty ι
  | .commonType, args => T.commonTypeOf args
  | .commonReference, args => T.commonReferenceOf args
  | .conditional, args => if args.length = 2 then T.conditional args.first args.second else .nonesuch
  | .invokeResult, args => T.invokeResult args.first args.rest
  | .decay, args => unary Ty.decay args
  | .constLvalue, args => unary Ty.constLvalue args
  | .rvalue, args => unary Ty.rvalue args
  | .removeCvref, args => unary Ty.removeCvref args
  | .lvalueOf, args => args.first.addLvalueReference
  | .mutableLvalue, args =>
    if args.length = 1 ∧ args.first.cv.isConst = false then args.first.addLvalueReference else .nonesuch

def isDetected (op : Operation) (args : Pack ι) : Bool := (T.detected op args).valid

/-- The result of an operation, or `default` as it is spelled. -/
def detectedOr (default : Ty ι) (op : Operation) (args : Pack ι) : Ty ι :=
  if T.isDetected op args then T.detected op args else default

/-- The operation succeeds with exactly the expected type. -/
def isDetectedExact (expected : Ty ι) (op : Operation) (args : Pack ι) : Bool :=
  T.isDetected op args && T.isSame (T.detected op args) expected

/-- The operation succeeds with a type that converts to `target`. -/
def isDetectedConvertible (target : Ty ι) (op : Operation) (args : Pack ι) : Bool :=
  T.convertible (T.detected op args) target

end Table

end Concord
