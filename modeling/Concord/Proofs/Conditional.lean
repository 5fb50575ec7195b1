import Concord.Conditional
import Concord.Proofs.Conversion

/-!
# The answers of the conditional operator

What the operator can answer is listed once, by the relation `Meets`: the common glvalue, one operand's glvalue or value
that the other is converted to, the common value, or a number of the higher rank. A conversion is taken only if it is the
only one, and what an operand is converted to stays the answer. Where objects are told apart, the order of the operands
does not matter.
-/

namespace Concord

namespace Table

variable {ι : Type} {T : Table ι} {t u r : Ty ι}

@[simp] theorem kind_prvalue (t : Ty ι) : (T.prvalue t).kind = .none := Ty.kind_build_none _ _

theorem cv_prvalue_of_isClass (h : T.isClass t.object = true) : (T.prvalue t).cv = t.cv := by
  rw [prvalue, Ty.cv_build_of_valid (T.valid_of_isClass h), if_pos h]

/-- A number loses all decoration. -/
theorem prvalue_of_isClass_eq_false (h : T.isClass t.object = false) : T.prvalue t = .plain t.object := by
  rw [prvalue, h]
  rfl

theorem prvalue_eq_of_object_eq (same : t.object = u.object) (h : T.isClass t.object = false) :
    T.prvalue t = T.prvalue u := by
  rw [prvalue_of_isClass_eq_false h, prvalue_of_isClass_eq_false (by rwa [← same]), same]

theorem prvalue_prvalue (t : Ty ι) : T.prvalue (T.prvalue t) = T.prvalue t := by
  cases h : T.isClass t.object with
  | true =>
      rw [prvalue, object_prvalue, cv_prvalue_of_isClass h]
      rfl
  | false =>
      rw [prvalue_of_isClass_eq_false (by rwa [object_prvalue]), object_prvalue, prvalue_of_isClass_eq_false h]

theorem canonical_prvalue (t : Ty ι) : (T.prvalue t).Canonical := Ty.canonical_build _ _ _

@[simp] theorem valid_prvalue (t : Ty ι) : (T.prvalue t).valid = t.valid := Ty.valid_build _ _ _

theorem canonical_finish (t u : Ty ι) : (T.finish t u).Canonical := by
  unfold finish
  split
  · exact Ty.canonical_canon t
  · split
    · exact canonical_prvalue t
    · split
      · exact .plain _
      · exact Ty.canonical_nonesuch

/-- The operator answers in the canonical spelling, so each failure is the sentinel itself. -/
theorem canonical_conditional (t u : Ty ι) : (T.conditional t u).Canonical := by
  unfold conditional convertOne
  split
  · split
    · split
      · exact Ty.canonical_nonesuch
      · exact canonical_finish _ _
      · exact canonical_finish _ _
      · exact canonical_finish _ _
    · exact canonical_finish _ _
  · exact Ty.canonical_nonesuch

theorem finish_of_glvalue (reference : t.isReference = true) (hkind : t.kind = u.kind)
    (same : T.sameReferent t u = true) : T.finish t u = t.canon := by
  simp [finish, reference, hkind, same]

theorem finish_of_sameValue (glvalue : t.isReference = false ∨ t.kind ≠ u.kind)
    (same : T.isSame (T.prvalue t) (T.prvalue u) = true) : T.finish t u = T.prvalue t := by
  have hkind : (t.isReference && (t.kind == u.kind && T.sameReferent t u)) = false := by
    rcases glvalue with h | h
    · simp [h]
    · simp [h]
  simp [finish, hkind, same]

theorem sameReferent_self (t : Ty ι) : T.sameReferent t t = true := by
  simp [sameReferent]

theorem sameReferent_canon (valid : t.valid = true) : T.sameReferent t.canon t = true := by
  simp [sameReferent, Ty.cv_canon_of_valid valid]

/-- What binds directly binds to its own object or to a base. -/
theorem sameOrDerived_of_bindsDirectly (h : T.bindsDirectly t u = true) :
    T.sameOrDerived t.object u.object = true := by
  simp only [bindsDirectly, Bool.and_eq_true] at h
  exact refRelated_of_refCompatible h.1

/-- What binds directly binds to a reference. -/
theorem isReference_of_bindsDirectly (h : T.bindsDirectly t u = true) : u.isReference = true := by
  simp only [bindsDirectly, Bool.and_eq_true, Bool.or_eq_true] at h
  rcases h.2 with ⟨hu, -⟩ | ⟨hu, -⟩
  · rw [Ty.isReference, Ty.isLvalue_iff.1 hu]
    rfl
  · rw [Ty.isReference, Ty.isXvalue_iff.1 hu]
    rfl

/-- A converted operand and the one it was converted to match, and the converted operand is the answer. -/
theorem finish_convertedTo (valid : u.valid = true) : T.finish (T.convertedTo t u) u = T.convertedTo t u := by
  unfold convertedTo
  split
  · rename_i binds
    have hkind := Ty.kind_canon_of_valid valid
    have reference : u.canon.isReference = true := by
      rw [Ty.isReference, hkind]
      exact isReference_of_bindsDirectly binds
    rw [finish_of_glvalue reference hkind (sameReferent_canon valid)]
    exact Ty.canon_eq_of_canonical (Ty.canonical_canon u)
  · rw [finish_of_sameValue, prvalue_prvalue]
    · rw [Ty.isReference, kind_prvalue]
      exact Or.inl rfl
    · rw [prvalue_prvalue]
      exact T.isSame_self _

/-- Where a class takes part, an operand converts if it binds or its value is obtained. -/
theorem converts_iff_of_anyClass (hclass : T.anyClass t u = true) :
    T.converts t u = true ↔ T.bindsDirectly t u = true ∨ T.prvalueConverts t u = true := by
  cases hbinds : T.bindsDirectly t u with
  | true => simp [converts, hbinds]
  | false => simp [converts, hbinds, prvalueApplies, hclass]

theorem classesRelated_comm (t u : Ty ι) : T.classesRelated t u = T.classesRelated u t := by
  rw [classesRelated, classesRelated, Bool.and_comm (T.isClass t.object), Bool.or_comm]

theorem anyClass_comm (t u : Ty ι) : T.anyClass t u = T.anyClass u t := Bool.or_comm _ _

theorem anyClass_of_classesRelated (related : T.classesRelated t u = true) : T.anyClass t u = true := by
  simp only [classesRelated, Bool.and_eq_true] at related
  simp [anyClass, related.1.1]

/-- Between related classes a conversion goes to the base and loses no qualifier. -/
theorem converts_iff_refCompatible (related : T.classesRelated t u = true) :
    T.converts t u = true ↔ T.refCompatible t u = true := by
  rw [converts_iff_of_anyClass (anyClass_of_classesRelated related), prvalueConverts, if_pos related]
  constructor
  · rintro (binds | value)
    · simp only [bindsDirectly, Bool.and_eq_true] at binds
      exact binds.1
    · exact value
  · exact Or.inr

theorem sameOrDerived_of_converts (related : T.classesRelated t u = true) (h : T.converts t u = true) :
    T.sameOrDerived t.object u.object = true :=
  refRelated_of_refCompatible ((converts_iff_refCompatible related).1 h)

/-- Otherwise a conversion obtains the value of the target's object, also from other expressions. -/
theorem valueConvertible_of_converts {s : Ty ι} (hobject : s.object = t.object)
    (steady : T.volatileClass s = false) (hclass : T.anyClass t u = true)
    (related : T.classesRelated t u = false) (h : T.converts t u = true) :
    T.valueConvertible s u.object = true := by
  rcases (converts_iff_of_anyClass hclass).1 h with binds | value
  · apply valueConvertible_of_sameOrDerived steady
    rw [hobject]
    exact sameOrDerived_of_bindsDirectly binds
  · rw [prvalueConverts, if_neg (by simp [related])] at value
    have h := valueConvertible_of_convertible hobject steady value
    rwa [object_prvalue] at h

theorem converts_of_valueConvertible (ht : t.valid = true) (hu : u.valid = true)
    (hclass : T.anyClass t u = true) (related : T.classesRelated t u = false)
    (h : T.valueConvertible t u.object = true) : T.converts t u = true := by
  rw [converts_iff_of_anyClass hclass, prvalueConverts, if_neg (by simp [related]),
    convertible_of_kind_none (kind_prvalue u), object_prvalue, valid_prvalue, ht, hu, h]
  exact Or.inr rfl

/-- Nothing binds to a value. -/
@[simp] theorem bindsDirectly_prvalue (t u : Ty ι) : T.bindsDirectly t (T.prvalue u) = false := by
  simp [bindsDirectly, Ty.isLvalue, Ty.isXvalue]

@[simp] theorem convertedTo_prvalue (t u : Ty ι) : T.convertedTo t (T.prvalue u) = T.prvalue u := by
  simp [convertedTo, prvalue_prvalue]

/-- Toward a value an operand converts if it converts to that value. -/
@[simp] theorem converts_prvalue (t u : Ty ι) : T.converts t (T.prvalue u) = T.prvalueConverts t u := by
  have hvalue : T.prvalueConverts t (T.prvalue u) = T.prvalueConverts t u := by
    have hrelated : T.classesRelated t (T.prvalue u) = T.classesRelated t u := by
      simp [classesRelated]
    cases related : T.classesRelated t u with
    | true =>
        have hclass : T.isClass u.object = true := by
          simp only [classesRelated, Bool.and_eq_true] at related
          exact related.1.2
        simp [prvalueConverts, hrelated, related, cv_prvalue_of_isClass hclass]
    | false => simp [prvalueConverts, hrelated, related, prvalue_prvalue]
  simp [converts, prvalueApplies, Ty.isPrvalue, hvalue]

/-- What the value of an operand converts to, the operand does. -/
theorem converts_of_converts_prvalue (ht : t.valid = true) (hu : u.valid = true)
    (steady : T.volatileClass t = false) (hclass : T.anyClass t u = true)
    (h : T.converts (T.prvalue t) u = true) : T.converts t u = true := by
  have hrelated : T.classesRelated (T.prvalue t) u = T.classesRelated t u := by
    simp [classesRelated]
  cases related : T.classesRelated t u with
  | true =>
      have hclass : T.isClass t.object = true := by
        simp only [classesRelated, Bool.and_eq_true] at related
        exact related.1.1
      rw [converts_iff_refCompatible (hrelated.trans related)] at h
      rw [converts_iff_refCompatible related]
      simpa [refCompatible, refRelated, cv_prvalue_of_isClass hclass] using h
  | false =>
      apply converts_of_valueConvertible ht hu hclass related
      exact valueConvertible_of_converts (object_prvalue T t).symm steady (by simpa [anyClass] using hclass)
        (hrelated.trans related) h

@[simp] theorem object_convertedTo (t u : Ty ι) : (T.convertedTo t u).object = u.object := by
  unfold convertedTo
  split
  · exact Ty.object_canon u
  · exact T.object_prvalue u

/-- An operand meets itself. -/
theorem conditional_self (valid : t.valid = true) : (T.conditional t t).object = t.object := by
  have needs : T.needsConversion t t = false := by
    simp [needsConversion, sameReferent]
  rw [conditional, if_pos (by simp [valid]), if_neg (by simp [needs])]
  by_cases reference : t.isReference = true
  · rw [finish_of_glvalue reference rfl (sameReferent_self t), Ty.object_canon]
  · rw [finish_of_sameValue (Or.inl (by simpa using reference)) (T.isSame_self _), object_prvalue]

theorem sameReferent_eq_false_of_needsConversion (needs : T.needsConversion t u = true) :
    T.sameReferent t u = false := by
  rw [← Bool.not_eq_true]
  intro same
  have hsame := same
  simp only [sameReferent, Bool.and_eq_true, beq_iff_eq] at hsame
  simp [needsConversion, same, hsame] at needs

/-- References to one number under different qualifiers bind to each other by their qualifiers alone. -/
theorem converts_eq_refCompatible (hclass : T.anyClass t u = false) (reference : t.isReference = true)
    (hkind : t.kind = u.kind) : T.converts t u = T.refCompatible t u := by
  have happlies : T.prvalueApplies t u = false := by
    rw [Ty.isReference, hkind] at reference
    cases h : u.kind <;> simp_all [prvalueApplies, Ty.isPrvalue, RefKind.isReference]
  rcases Ty.isReference_iff.1 reference with h | h
  · simp [converts, happlies, bindsDirectly, Ty.isLvalue, ← hkind, h]
  · simp [converts, happlies, bindsDirectly, Ty.isXvalue, ← hkind, h]

/-- Operands of one object of which one has to be converted are converted by their qualifiers alone. -/
theorem converts_iff_covers_of_object_eq (same : t.object = u.object) (needs : T.needsConversion t u = true) :
    T.converts t u = true ↔ u.cv.covers t.cv = true := by
  have hcompatible : T.refCompatible t u = u.cv.covers t.cv := by
    simp [refCompatible, refRelated, same]
  cases hclass : T.anyClass t u with
  | true =>
      have related : T.classesRelated t u = true := by
        simpa [classesRelated, anyClass, same] using hclass
      rw [converts_iff_refCompatible related, hcompatible]
  | false =>
      simp only [needsConversion, hclass, Bool.and_false, Bool.false_or, Bool.and_eq_true, beq_iff_eq] at needs
      rw [converts_eq_refCompatible hclass needs.1.1 needs.1.2, hcompatible]

/-- Operands of different objects that are left as they are meet in a number or not at all. -/
theorem finish_of_differ (differ : T.sameObject t.object u.object = false) :
    T.finish t u =
      if T.isArithmetic t.object && T.isArithmetic u.object then .plain (T.usualArithmetic t.object u.object)
      else .nonesuch := by
  simp [finish, sameReferent, isSame, differ]

theorem finish_eq_nonesuch (differ : T.sameObject t.object u.object = false) (hclass : T.anyClass t u = true) :
    T.finish t u = .nonesuch := by
  rw [finish_of_differ differ, if_neg]
  rw [Bool.and_eq_true]
  rintro ⟨ht, hu⟩
  simp [anyClass, T.isClass_eq_false_of_isArithmetic ht, T.isClass_eq_false_of_isArithmetic hu] at hclass

variable (T) in
/-- The ways in which the operator on `t` and `u` comes to a valid answer when at most `t` is converted. -/
inductive Meets (t u : Ty ι) : Ty ι → Prop where
  | glvalue (reference : t.isReference = true) (hkind : t.kind = u.kind) (same : T.sameReferent t u = true) :
      Meets t u t.canon
  | bind (needs : T.needsConversion t u = true) (binds : T.bindsDirectly t u = true)
      (oneWay : T.converts u t = false) : Meets t u u.canon
  | value (needs : T.needsConversion t u = true) (converts : T.converts t u = true)
      (value : T.prvalueConverts t u = true) (oneWay : T.converts u t = false) : Meets t u (T.prvalue u)
  | sameValue (same : T.isSame (T.prvalue t) (T.prvalue u) = true) : Meets t u (T.prvalue t)
  | number (differ : T.isSame (T.prvalue t) (T.prvalue u) = false) (ht : T.isArithmetic t.object = true)
      (hu : T.isArithmetic u.object = true) : Meets t u (.plain (T.usualArithmetic t.object u.object))

/-- Operands of one object meet in that object. -/
theorem Meets.object_eq (meets : T.Meets t u r) (same : t.object = u.object) : r.object = u.object := by
  cases meets with
  | glvalue => rw [Ty.object_canon, same]
  | bind => exact Ty.object_canon u
  | value => exact T.object_prvalue u
  | sameValue => rw [object_prvalue, same]
  | number differ ht =>
      have hvalue := prvalue_eq_of_object_eq same (T.isClass_eq_false_of_isArithmetic ht)
      rw [hvalue, T.isSame_self] at differ
      contradiction

theorem isVolatile_prvalue (h : t.cv.isVolatile = false) : (T.prvalue t).cv.isVolatile = false := by
  apply Ty.isVolatile_build
  split
  · exact h
  · rfl

/-- The operator adds no `volatile`. -/
theorem Meets.isVolatile (meets : T.Meets t u r) (ht : t.cv.isVolatile = false) (hu : u.cv.isVolatile = false) :
    r.cv.isVolatile = false := by
  cases meets with
  | glvalue => exact Ty.isVolatile_build _ _ ht
  | bind => exact Ty.isVolatile_build _ _ hu
  | value => exact isVolatile_prvalue hu
  | sameValue => exact isVolatile_prvalue ht
  | number => rfl

theorem finish_meets (valid : (T.finish t u).valid = true) : T.Meets t u (T.finish t u) := by
  unfold finish at valid ⊢
  split
  · rename_i glvalue
    simp only [Bool.and_eq_true, beq_iff_eq] at glvalue
    exact .glvalue glvalue.1 glvalue.2.1 glvalue.2.2
  · rename_i glvalue
    rw [if_neg glvalue] at valid
    split
    · rename_i same
      exact .sameValue same
    · rename_i differ
      rw [if_neg differ] at valid
      split
      · rename_i arithmetic
        simp only [Bool.and_eq_true] at arithmetic
        exact .number (by simpa using differ) arithmetic.1 arithmetic.2
      · rename_i arithmetic
        rw [if_neg arithmetic] at valid
        exact absurd valid (by simp)

theorem convertedTo_meets (needs : T.needsConversion t u = true) (converts : T.converts t u = true)
    (oneWay : T.converts u t = false) : T.Meets t u (T.convertedTo t u) := by
  unfold convertedTo
  split
  · rename_i binds
    exact .bind needs binds oneWay
  · rename_i binds
    have value := converts
    simp only [Table.converts, Bool.or_eq_true, Bool.and_eq_true] at value
    rcases value with h | ⟨-, h⟩
    · exact absurd h binds
    · exact .value needs converts h oneWay

/-- Where only one operand converts, it is converted to the other. -/
theorem conditional_eq_convertedTo (ht : t.valid = true) (hu : u.valid = true)
    (needs : T.needsConversion t u = true) (converts : T.converts t u = true)
    (oneWay : T.converts u t = false) : T.conditional t u = T.convertedTo t u := by
  have hone : T.convertOne t u = T.finish (T.convertedTo t u) u := by
    unfold convertOne
    rw [converts, oneWay]
  rw [conditional, if_pos (by simp [ht, hu]), if_pos needs, hone, finish_convertedTo hu]

/-- Where neither operand converts, they stay as they are. -/
theorem conditional_eq_finish (ht : t.valid = true) (hu : u.valid = true) (hto : T.converts t u = false)
    (hback : T.converts u t = false) : T.conditional t u = T.finish t u := by
  have hone : T.convertOne t u = T.finish t u := by
    unfold convertOne
    rw [hto, hback]
  rw [conditional, if_pos (by simp [ht, hu]), hone, ite_self]

section Order

variable (distinct : T.Distinct)

include distinct

theorem sameReferent_comm (t u : Ty ι) : T.sameReferent t u = T.sameReferent u t := by
  rw [sameReferent, sameReferent, distinct.sameObject_comm, BEq.comm]

theorem isSame_comm (t u : Ty ι) : T.isSame t u = T.isSame u t := by
  rw [isSame, isSame, distinct.sameObject_comm, BEq.comm (a := t.cv), BEq.comm (a := t.kind)]

theorem finish_comm (t u : Ty ι) : T.finish t u = T.finish u t := by
  have hglvalue : (t.isReference && (t.kind == u.kind && T.sameReferent t u)) =
      (u.isReference && (u.kind == t.kind && T.sameReferent u t)) := by
    rw [sameReferent_comm distinct u t]
    by_cases hkind : t.kind = u.kind
    · simp [Ty.isReference, hkind]
    · simp [beq_false_of_ne hkind, beq_false_of_ne (Ne.symm hkind)]
  unfold finish
  rw [← hglvalue, isSame_comm distinct (T.prvalue u), Bool.and_comm (T.isArithmetic u.object),
    T.usualArithmetic_comm u.object]
  split
  · rename_i glvalue
    simp only [sameReferent, Bool.and_eq_true, beq_iff_eq, distinct.sameObject_iff] at glvalue
    obtain ⟨-, hkind, hobject, hcv⟩ := glvalue
    rw [Ty.canon, Ty.canon, hobject, hcv, hkind]
  · split
    · rename_i same
      exact distinct.eq_of_isSame (canonical_prvalue t) (canonical_prvalue u) same
    · rfl

theorem needsConversion_comm (t u : Ty ι) : T.needsConversion t u = T.needsConversion u t := by
  unfold needsConversion
  rw [sameReferent_comm distinct t u, anyClass, anyClass, Bool.or_comm (T.isClass t.object)]
  congr 1
  by_cases hkind : t.kind = u.kind
  · rw [distinct.sameObject_comm t.object, bne_comm (a := t.cv)]
    simp [Ty.isReference, hkind]
  · simp [beq_false_of_ne hkind, beq_false_of_ne (Ne.symm hkind)]

theorem convertOne_comm (t u : Ty ι) : T.convertOne t u = T.convertOne u t := by
  unfold convertOne
  cases htu : T.converts t u <;> cases hut : T.converts u t
  · exact finish_comm distinct t u
  · exact finish_comm distinct t _
  · exact finish_comm distinct _ u
  · rfl

theorem conditional_comm (t u : Ty ι) : T.conditional t u = T.conditional u t := by
  rw [conditional, conditional, Bool.and_comm, needsConversion_comm distinct, convertOne_comm distinct,
    finish_comm distinct]

theorem anyClass_of_needsConversion (differ : t.object ≠ u.object) (needs : T.needsConversion t u = true) :
    T.anyClass t u = true := by
  have hobject := distinct.sameObject_eq_false differ
  simpa [needsConversion, sameReferent, hobject] using needs

theorem needsConversion_of_anyClass (differ : t.object ≠ u.object) (hclass : T.anyClass t u = true) :
    T.needsConversion t u = true := by
  have hobject := distinct.sameObject_eq_false differ
  simp [needsConversion, sameReferent, hobject, hclass]

/-- Two different numbers meet in the number of the higher rank. -/
theorem conditional_of_isArithmetic (differ : t.object ≠ u.object) (ht : T.isArithmetic t.object = true)
    (hu : T.isArithmetic u.object = true) :
    T.conditional t u = .plain (T.usualArithmetic t.object u.object) := by
  have hobject := distinct.sameObject_eq_false differ
  have hclass : T.anyClass t u = false := by
    rw [anyClass, T.isClass_eq_false_of_isArithmetic ht, T.isClass_eq_false_of_isArithmetic hu]
    rfl
  have needs : T.needsConversion t u = false := by
    simp [needsConversion, hclass, hobject]
  rw [conditional, if_pos (by simp [Ty.valid, T.valid_of_isArithmetic ht, T.valid_of_isArithmetic hu]),
    if_neg (by simp [needs]), finish]
  simp [sameReferent, isSame, hobject, ht, hu]

/-- Each valid answer of the operator is reached from one of the two operands. -/
theorem conditional_meets (valid : (T.conditional t u).valid = true) :
    T.Meets t u (T.conditional t u) ∨ T.Meets u t (T.conditional t u) := by
  have hvalid := T.valid_of_conditional valid
  rw [conditional, if_pos (by simp [hvalid])] at valid ⊢
  split
  · rename_i needs
    rw [if_pos needs] at valid
    unfold convertOne at valid ⊢
    cases htu : T.converts t u <;> cases hut : T.converts u t
    · simp only [htu, hut] at valid
      exact Or.inl (finish_meets valid)
    · right
      change T.Meets u t (T.finish t (T.convertedTo u t))
      rw [finish_comm distinct, finish_convertedTo hvalid.1]
      exact convertedTo_meets (needsConversion_comm distinct t u ▸ needs) hut htu
    · left
      change T.Meets t u (T.finish (T.convertedTo t u) u)
      rw [finish_convertedTo hvalid.2]
      exact convertedTo_meets needs htu hut
    · simp only [htu, hut] at valid
      exact absurd valid (by simp)
  · rename_i needs
    rw [if_neg needs] at valid
    exact Or.inl (finish_meets valid)

end Order

end Table

end Concord
