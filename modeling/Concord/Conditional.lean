import Concord.Conversion

/-!
# The conditional operator

The type of an expression that is one of two operands as a condition holds or not. Operands of one type and category
are the result as they are. Where a class takes part, or two references differ in qualifiers only, each operand is tried
toward the other: two ways are ambiguous, one way converts that operand. What is left is a common glvalue, a common
prvalue, or the usual arithmetic conversions.
-/

namespace Concord

namespace Table

variable {ι : Type} (T : Table ι)

/-- The value that an expression turns into. Only values of classes stay qualified. -/
def prvalue (t : Ty ι) : Ty ι :=
  .build t.object (if T.isClass t.object then t.cv else .unqualified) .none

/-- At least one operand is a class. -/
def anyClass (t u : Ty ι) : Bool := T.isClass t.object || T.isClass u.object

/-- The operands have one object and one qualification. -/
def sameReferent (t u : Ty ι) : Bool := T.sameObject t.object u.object && t.cv == u.cv

/-- An operand has to be converted to match the other. -/
def needsConversion (t u : Ty ι) : Bool :=
  (!T.sameReferent t u && T.anyClass t u) ||
    (t.isReference && t.kind == u.kind && (T.sameObject t.object u.object && t.cv != u.cv))

/-- `t` binds directly to a reference to `u`: an lvalue to an lvalue reference, an xvalue or a class value to an rvalue
reference. -/
def bindsDirectly (t u : Ty ι) : Bool :=
  T.refCompatible t u &&
    ((u.isLvalue && t.isLvalue) ||
      (u.isXvalue && (t.isXvalue || (t.isPrvalue && T.isClass t.object))))

/-- The value of `u` is a target for `t`. -/
def prvalueApplies (t u : Ty ι) : Bool := u.isPrvalue || (!T.bindsDirectly t u && T.anyClass t u)

/-- Both operands are classes, one of which is the other or derives from it. -/
def classesRelated (t u : Ty ι) : Bool :=
  T.isClass t.object && T.isClass u.object &&
    (T.sameOrDerived t.object u.object || T.sameOrDerived u.object t.object)

/-- `t` converts to the value of `u`. Between related classes only the way to a base counts, with no qualifier lost. -/
def prvalueConverts (t u : Ty ι) : Bool :=
  if T.classesRelated t u then T.sameOrDerived t.object u.object && u.cv.covers t.cv
  else T.convertible t (T.prvalue u)

/-- `t` can be converted to match `u`. -/
def converts (t u : Ty ι) : Bool := T.bindsDirectly t u || (T.prvalueApplies t u && T.prvalueConverts t u)

/-- What `t` becomes when it is converted to match `u`. -/
def convertedTo (t u : Ty ι) : Ty ι := if T.bindsDirectly t u then u.canon else T.prvalue u

/-- The result for operands of which none is left to convert. -/
def finish (t u : Ty ι) : Ty ι :=
  if t.isReference && (t.kind == u.kind && T.sameReferent t u) then t.canon
  else if T.isSame (T.prvalue t) (T.prvalue u) then T.prvalue t
  else if T.isArithmetic t.object && T.isArithmetic u.object then
    .plain (T.usualArithmetic t.object u.object)
  else .nonesuch

/-- The result for operands of which one has to be converted. -/
def convertOne (t u : Ty ι) : Ty ι :=
  match T.converts t u, T.converts u t with
  | true, true => .nonesuch
  | true, false => T.finish (T.convertedTo t u) u
  | false, true => T.finish t (T.convertedTo u t)
  | false, false => T.finish t u

/-- The type of the conditional operator on two operands, or the sentinel. -/
def conditional (t u : Ty ι) : Ty ι :=
  if t.valid && u.valid then
    if T.needsConversion t u then T.convertOne t u else T.finish t u
  else .nonesuch

@[simp] theorem object_prvalue (t : Ty ι) : (T.prvalue t).object = t.object := Ty.object_build _ _ _

theorem conditional_of_invalid_left {t u : Ty ι} (h : t.valid = false) : T.conditional t u = .nonesuch := by
  simp [conditional, h]

theorem conditional_of_invalid_right {t u : Ty ι} (h : u.valid = false) : T.conditional t u = .nonesuch := by
  simp [conditional, h]

theorem valid_of_conditional {t u : Ty ι} (h : (T.conditional t u).valid = true) :
    t.valid = true ∧ u.valid = true := by
  cases ht : t.valid with
  | false =>
    rw [T.conditional_of_invalid_left ht] at h
    contradiction
  | true =>
    cases hu : u.valid with
    | false =>
      rw [T.conditional_of_invalid_right hu] at h
      contradiction
    | true => exact ⟨rfl, rfl⟩

end Table

end Concord
