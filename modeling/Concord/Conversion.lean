import Concord.Table.Derivation

/-!
# Implicit conversion

Whether an expression of one type converts to another. A reference binds to the same or a derived object with at least
its qualifiers; a value is copied, sliced, computed between numbers, or obtained by one registered conversion with a
standard conversion on its other side.
-/

namespace Concord

namespace Table

variable {ι : Type} (T : Table ι)

/-- The object of `source` is that of `target` or derives from it. -/
def refRelated (source target : Ty ι) : Bool := T.sameOrDerived source.object target.object

/-- The types are related and the target has all qualifiers of the source. -/
def refCompatible (source target : Ty ι) : Bool :=
  T.refRelated source target && target.cv.covers source.cv

/-- A value of object `o` is obtained from an expression without a registered conversion: by a copy or a slice, never of
a volatile class, or between two numbers. -/
def standardConvertible (source : Ty ι) (o : Object ι) : Bool :=
  (T.sameOrDerived source.object o && !(T.isClass source.object && source.cv.isVolatile)) ||
    (T.isArithmetic source.object && T.isArithmetic o)

/-- A value of some object of a list converts to `o` by a standard conversion. -/
def anyToward (list : List (Object ι)) (o : Object ι) : Bool :=
  list.any fun h => T.sameOrDerived h o || (T.isArithmetic h && T.isArithmetic o)

/-- An expression converts to some object of a list by a standard conversion. -/
def anyFrom (list : List (Object ι)) (source : Ty ι) : Bool := list.any (T.standardConvertible source ·)

/-- A value of object `o` is obtained from an expression with at most one registered conversion: an operator of the
source followed by a standard conversion, or a standard conversion followed by a constructor of `o`. -/
def valueConvertible (source : Ty ι) (o : Object ι) : Bool :=
  T.standardConvertible source o ||
    (T.anyToward (T.convertsTo source.object) o || T.anyFrom (T.convertsFrom o) source)

/-- An expression of type `source` converts implicitly to `target`. Only a reference that is exactly `const &` or `&&`
binds to a temporary, and then only to one of an unrelated object. -/
def convertible (source target : Ty ι) : Bool :=
  source.valid && target.valid &&
    match target.kind with
    | .none => T.valueConvertible source target.object
    | .lvalue =>
      if target.cv = .const then
        if T.refRelated source target then T.refCompatible source target
        else T.valueConvertible source target.object
      else source.isLvalue && T.refCompatible source target
    | .rvalue =>
      if T.refRelated source target then !source.isLvalue && T.refCompatible source target
      else T.valueConvertible source target.object

variable {T}

theorem valid_of_convertible {s t : Ty ι} (h : T.convertible s t = true) : s.valid = true ∧ t.valid = true := by
  simp only [convertible, Bool.and_eq_true] at h
  exact h.1

theorem convertible_of_invalid_right {s t : Ty ι} (h : t.valid = false) : T.convertible s t = false := by
  simp [convertible, h]

/-- Conversion of a number to a number does not depend on decorations. -/
theorem standardConvertible_of_isArithmetic {s : Ty ι} {o : Object ι} (hs : T.isArithmetic s.object = true)
    (ho : T.isArithmetic o = true) : T.standardConvertible s o = true := by
  simp [standardConvertible, hs, ho]

end Table

end Concord
