import Concord.Conversion

/-!
# What a conversion reads

A conversion reads of a table how objects are told apart, which are classes and numbers, their bases and their registered
conversions. Tables that agree on these have the same derivations and the same conversions, whatever else they register.
-/

namespace Concord

namespace Table

variable {ι : Type} {T T' : Table ι}

/-- Two tables agree on all that a conversion reads. -/
structure ConvertsAlike (T T' : Table ι) : Prop where
  sameObject_eq : T.sameObject = T'.sameObject
  isClass_eq : T.isClass = T'.isClass
  isArithmetic_eq : T.isArithmetic = T'.isArithmetic
  bases_eq : T.bases = T'.bases
  depth_eq : T.depth = T'.depth
  convertsTo_eq : T.convertsTo = T'.convertsTo
  convertsFrom_eq : T.convertsFrom = T'.convertsFrom

namespace ConvertsAlike

variable (alike : T.ConvertsAlike T')

include alike

theorem search?_eq (depth : Nat) (list : List (Object ι)) (o : Object ι) :
    T.search? depth list o = T'.search? depth list o := by
  induction depth generalizing list with
  | zero => rfl
  | succ depth ih => simp only [search?, ih, alike.bases_eq, alike.sameObject_eq]

theorem isDerived_eq : T.isDerived = T'.isDerived := by
  funext d b
  rw [isDerived, isDerived, reaches, reaches, alike.search?_eq, alike.bases_eq, alike.depth_eq]

theorem sameOrDerived_eq : T.sameOrDerived = T'.sameOrDerived := by
  funext d b
  rw [sameOrDerived, sameOrDerived, alike.sameObject_eq, alike.isDerived_eq]

theorem refCompatible_eq : T.refCompatible = T'.refCompatible := by
  funext s t
  rw [refCompatible, refCompatible, refRelated, refRelated, alike.sameOrDerived_eq]

theorem standardConvertible_eq : T.standardConvertible = T'.standardConvertible := by
  funext s o
  rw [standardConvertible, standardConvertible, alike.sameOrDerived_eq, alike.isClass_eq, alike.isArithmetic_eq]

theorem valueConvertible_eq : T.valueConvertible = T'.valueConvertible := by
  funext s o
  simp only [valueConvertible, anyToward, anyFrom, alike.standardConvertible_eq, alike.sameOrDerived_eq,
    alike.isArithmetic_eq, alike.convertsTo_eq, alike.convertsFrom_eq]

theorem convertible_eq : T.convertible = T'.convertible := by
  funext s t
  simp only [convertible, refRelated, alike.sameOrDerived_eq, alike.refCompatible_eq, alike.valueConvertible_eq]
  rfl

end ConvertsAlike

end Table

end Concord
