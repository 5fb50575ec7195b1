import Concord.Conversion

/-!
# What a conversion depends on

A value conversion reads the qualifiers of its source only to refuse volatile classes. So sources of one object that are
no volatile classes convert to the same values, and what binds to a reference also converts to the value behind it.
-/

namespace Concord

namespace Table

variable {ι : Type} (T : Table ι)

/-- The type is a volatile class or a reference to one. -/
def volatileClass (t : Ty ι) : Bool := T.isClass t.object && t.cv.isVolatile

/-- No object registers a conversion, from itself or to itself. -/
structure ConversionFree : Prop where
  convertsTo : ∀ o, T.convertsTo o = []
  convertsFrom : ∀ o, T.convertsFrom o = []

variable {T} {s t : Ty ι} {o : Object ι}

theorem volatileClass_of_cv (h : t.cv.isVolatile = false) : T.volatileClass t = false := by
  simp [volatileClass, h]

theorem volatileClass_build (o : Object ι) {c : Cv} (k : RefKind) (h : c.isVolatile = false) :
    T.volatileClass (.build o c k) = false := by
  cases hclass : T.isClass o with
  | false => simp [volatileClass, hclass]
  | true => simp [volatileClass, Ty.cv_build_of_valid (T.valid_of_isClass hclass), h]

/-- Decay takes the qualifiers away, and neither kind of operand for common types gets `volatile` back. -/
theorem volatileClass_addRvalueReference_decay (t : Ty ι) :
    T.volatileClass t.decay.addRvalueReference = false :=
  volatileClass_build t.object .rvalue rfl

theorem standardConvertible_of_sameOrDerived (steady : T.volatileClass s = false)
    (h : T.sameOrDerived s.object o = true) : T.standardConvertible s o = true := by
  simp only [volatileClass] at steady
  simp [standardConvertible, h, steady]

/-- A standard conversion stays one when the source is replaced by another expression of its object that is no volatile
class. -/
theorem standardConvertible_of_object_eq (hobject : t.object = s.object) (steady : T.volatileClass t = false)
    (h : T.standardConvertible s o = true) : T.standardConvertible t o = true := by
  simp only [standardConvertible, Bool.or_eq_true, Bool.and_eq_true] at h
  rcases h with ⟨derived, -⟩ | ⟨hs, ho⟩
  · exact standardConvertible_of_sameOrDerived steady (hobject ▸ derived)
  · exact standardConvertible_of_isArithmetic (hobject ▸ hs) ho

theorem standardConvertible_iff (steady : T.volatileClass s = false) :
    T.standardConvertible s o = true ↔
      T.sameOrDerived s.object o = true ∨ (T.isArithmetic s.object = true ∧ T.isArithmetic o = true) := by
  simp only [volatileClass] at steady
  simp [standardConvertible, steady]

/-- Without registered conversions all that is left is the standard conversion. -/
theorem ConversionFree.valueConvertible_eq (free : T.ConversionFree) :
    T.valueConvertible s o = T.standardConvertible s o := by
  simp [valueConvertible, anyToward, anyFrom, free.convertsTo, free.convertsFrom]

theorem valueConvertible_of_standardConvertible (h : T.standardConvertible s o = true) :
    T.valueConvertible s o = true := by
  simp [valueConvertible, h]

theorem valueConvertible_of_object_eq (hobject : t.object = s.object) (steady : T.volatileClass t = false)
    (h : T.valueConvertible s o = true) : T.valueConvertible t o = true := by
  simp only [valueConvertible, anyFrom, Bool.or_eq_true, List.any_eq_true] at h ⊢
  rcases h with standard | operator | ⟨x, mem, standard⟩
  · exact Or.inl (standardConvertible_of_object_eq hobject steady standard)
  · exact Or.inr (Or.inl (hobject ▸ operator))
  · exact Or.inr (Or.inr ⟨x, mem, standardConvertible_of_object_eq hobject steady standard⟩)

theorem valueConvertible_of_sameOrDerived (steady : T.volatileClass s = false)
    (h : T.sameOrDerived s.object o = true) : T.valueConvertible s o = true :=
  valueConvertible_of_standardConvertible (standardConvertible_of_sameOrDerived steady h)

/-- Conversion to a type that is no reference is conversion to its value. -/
theorem convertible_of_kind_none (hkind : t.kind = .none) :
    T.convertible s t = (s.valid && t.valid && T.valueConvertible s t.object) := by
  simp [convertible, hkind]

@[simp] theorem convertible_plain :
    T.convertible s (.plain o) = (s.valid && o.valid && T.valueConvertible s o) :=
  convertible_of_kind_none rfl

@[simp] theorem refRelated_canon : T.refRelated s t.canon = T.refRelated s t := by
  simp [refRelated]

theorem refRelated_of_refCompatible (h : T.refCompatible s t = true) : T.refRelated s t = true := by
  simp only [refCompatible, Bool.and_eq_true] at h
  exact h.1

theorem refCompatible_canon (valid : t.valid = true) : T.refCompatible s t.canon = T.refCompatible s t := by
  simp [refCompatible, Ty.cv_canon_of_valid valid]

theorem refCompatible_rvalue (valid : t.valid = true) : T.refCompatible s t.rvalue = T.refCompatible s t := by
  simp [refCompatible, refRelated, Ty.cv_rvalue_of_valid valid]

/-- How the target is spelled does not matter. -/
@[simp] theorem convertible_canon : T.convertible s t.canon = T.convertible s t := by
  cases valid : t.valid with
  | true =>
      simp [convertible, refCompatible_canon valid, Ty.cv_canon_of_valid valid, Ty.kind_canon_of_valid valid]
  | false => rw [convertible_of_invalid_right valid, convertible_of_invalid_right (by simpa using valid)]

/-- A compatible source binds to an lvalue reference if it is an lvalue itself or the reference is exactly `const`. -/
theorem convertible_of_isLvalue (hs : s.valid = true) (ht : t.valid = true) (hkind : t.isLvalue = true)
    (compatible : T.refCompatible s t = true) (h : s.isLvalue = true ∨ t.cv = .const) :
    T.convertible s t = true := by
  have related := refRelated_of_refCompatible compatible
  have hkind := Ty.isLvalue_iff.1 hkind
  rcases h with lvalue | const
  · simp [convertible, hs, ht, hkind, related, compatible, lvalue]
  · simp [convertible, hs, ht, hkind, related, compatible, const]

/-- A compatible source that is no lvalue binds to an rvalue reference. -/
theorem convertible_of_isXvalue (hs : s.valid = true) (ht : t.valid = true) (hkind : t.isXvalue = true)
    (compatible : T.refCompatible s t = true) (h : s.isLvalue = false) : T.convertible s t = true := by
  have related := refRelated_of_refCompatible compatible
  have hkind := Ty.isXvalue_iff.1 hkind
  simp [convertible, hs, ht, hkind, related, compatible, h]

/-- What a source converts to has a value that every expression of the source's object is converted to, unless that is
a volatile class. -/
theorem valueConvertible_of_convertible {s' : Ty ι} (hobject : s'.object = s.object)
    (steady : T.volatileClass s' = false) (h : T.convertible s t = true) : T.valueConvertible s' t.object = true := by
  simp only [convertible, Bool.and_eq_true] at h
  obtain ⟨-, h⟩ := h
  by_cases related : T.refRelated s t = true
  · exact valueConvertible_of_sameOrDerived steady (hobject ▸ related)
  · apply valueConvertible_of_object_eq hobject steady
    cases hkind : t.kind with
    | none => simpa [hkind] using h
    | lvalue =>
        by_cases const : t.cv = .const
        · simpa [hkind, const, related] using h
        · simp [hkind, const, refCompatible, related] at h
    | rvalue => simpa [hkind, related] using h

theorem convertible_decay_of_convertible {s' : Ty ι} (hobject : s'.object = s.object)
    (steady : T.volatileClass s' = false) (h : T.convertible s t = true) : T.convertible s' t.decay = true := by
  obtain ⟨hs, ht⟩ := valid_of_convertible h
  have hs' : s'.valid = true := by rwa [Ty.valid, hobject]
  have value := valueConvertible_of_convertible hobject steady h
  rw [Ty.decay, convertible_plain, hs', value, Bool.and_true, Bool.true_and]
  exact ht

end Table

end Concord
