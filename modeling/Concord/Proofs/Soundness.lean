import Concord.Catalogue.Numbered
import Concord.Proofs.CommonReference

/-!
# Operands convert to what they have in common

Without an entry both operands convert to their common reference and to their common type. What the conditional operator
answers is reached by each operand through the same conversions that it was found with; decay keeps them. A volatile
class is not copied, so it is left out.
-/

namespace Concord

namespace Table

variable {ι : Type} {T : Table ι} {t u r : Ty ι}

/-- An operand converts to the value that it was tried toward. -/
theorem convertible_of_prvalueConverts (ht : t.valid = true) (hu : u.valid = true)
    (steady : T.volatileClass t = false) (h : T.prvalueConverts t u = true) :
    T.convertible t (T.prvalue u) = true := by
  unfold prvalueConverts at h
  split at h
  · simp only [Bool.and_eq_true] at h
    rw [convertible_of_kind_none (kind_prvalue u), object_prvalue, valid_prvalue, ht, hu,
      valueConvertible_of_sameOrDerived steady h.1]
    rfl
  · exact h

/-- An expression converts to the value of its own object, unless that is a volatile class. -/
theorem convertible_prvalue_of_object_eq (ht : t.valid = true) (steady : T.volatileClass t = false)
    (hobject : t.object = u.object) : T.convertible t (T.prvalue u) = true := by
  have hu : u.valid = true := by rwa [Ty.valid, ← hobject]
  have value : T.valueConvertible t u.object = true := by
    apply valueConvertible_of_sameOrDerived steady
    rw [hobject]
    exact T.sameOrDerived_self _
  rw [convertible_of_kind_none (kind_prvalue u), object_prvalue, valid_prvalue, ht, hu, value]
  rfl

/-- Both operands convert to what they meet in. -/
theorem Meets.convertible (distinct : T.Distinct) (ht : t.valid = true) (hu : u.valid = true)
    (steady : T.volatileClass t = false) (steady' : T.volatileClass u = false) (meets : T.Meets t u r) :
    T.convertible t r = true ∧ T.convertible u r = true := by
  cases meets with
  | glvalue reference hkind same =>
      have binds := bindsDirectly_of_glvalue distinct (t := u) (u := t)
        (by rwa [Ty.isReference, ← hkind]) hkind.symm (by rwa [sameReferent_comm distinct])
      have joins := joins_of_bindsDirectly ht binds
      have valid : t.canon.valid = true := by rwa [Ty.valid_canon]
      exact ⟨joins.symm.convertible ht valid, joins.convertible hu valid⟩
  | bind _ binds =>
      have joins := joins_of_bindsDirectly hu binds
      have valid : u.canon.valid = true := by rwa [Ty.valid_canon]
      exact ⟨joins.convertible ht valid, joins.symm.convertible hu valid⟩
  | value _ _ value =>
      exact ⟨convertible_of_prvalueConverts ht hu steady value,
        convertible_prvalue_of_object_eq hu steady' rfl⟩
  | sameValue same =>
      simp only [isSame, Bool.and_eq_true, object_prvalue, distinct.sameObject_iff] at same
      exact ⟨convertible_prvalue_of_object_eq ht steady rfl,
        convertible_prvalue_of_object_eq hu steady' same.1.symm⟩
  | number _ hta hua =>
      have promoted := T.isArithmetic_usualArithmetic t.object u.object
      have toPromoted {s : Ty ι} (hs : s.valid = true) (arithmetic : T.isArithmetic s.object = true) :
          T.convertible s (.plain (T.usualArithmetic t.object u.object)) = true := by
        rw [convertible_plain, hs, T.valid_of_isArithmetic promoted, valueConvertible_of_standardConvertible
          (standardConvertible_of_isArithmetic arithmetic promoted)]
        rfl
      exact ⟨toPromoted ht hta, toPromoted hu hua⟩

section Distinct

variable (distinct : T.Distinct)

include distinct

theorem convertible_conditional (steady : T.volatileClass t = false) (steady' : T.volatileClass u = false)
    (valid : (T.conditional t u).valid = true) :
    T.convertible t (T.conditional t u) = true ∧ T.convertible u (T.conditional t u) = true := by
  obtain ⟨ht, hu⟩ := T.valid_of_conditional valid
  rcases conditional_meets distinct valid with meets | meets
  · exact meets.convertible distinct ht hu steady steady'
  · exact (meets.convertible distinct hu ht steady' steady).symm

/-- Expressions convert to the decayed answer for others of their objects that are no volatile classes. -/
theorem convertible_decay_conditional {t' u' : Ty ι} (ht : t.object = t'.object) (hu : u.object = u'.object)
    (steady : T.volatileClass t = false) (steady' : T.volatileClass u = false)
    (operand : T.volatileClass t' = false) (operand' : T.volatileClass u' = false)
    (valid : (T.conditional t' u').decay.valid = true) :
    T.convertible t (T.conditional t' u').decay = true ∧ T.convertible u (T.conditional t' u').decay = true := by
  obtain ⟨hleft, hright⟩ := convertible_conditional distinct operand operand' valid
  exact ⟨convertible_decay_of_convertible ht steady hleft, convertible_decay_of_convertible hu steady' hright⟩

theorem convertible_commonType (steady : T.volatileClass t = false) (steady' : T.volatileClass u = false)
    (unspecialized : T.Unspecialized t u) (valid : (T.commonType t u).valid = true) :
    T.convertible t (T.commonType t u) = true ∧ T.convertible u (T.commonType t u) = true := by
  obtain ⟨ht, hu⟩ := valid_of_commonType valid
  rw [commonType_eq_commonByValue unspecialized.type ht hu] at valid ⊢
  exact convertible_decay_conditional distinct (by simp) (by simp) steady steady'
    (volatileClass_addRvalueReference_decay t) (volatileClass_addRvalueReference_decay u) valid

theorem convertible_commonReference (steady : T.volatileClass t = false) (steady' : T.volatileClass u = false)
    (unspecialized : T.Unspecialized t u) (valid : (T.commonReference t u).valid = true) :
    T.convertible t (T.commonReference t u) = true ∧ T.convertible u (T.commonReference t u) = true := by
  obtain ⟨ht, hu⟩ := valid_of_commonReference valid
  rcases commonReference_cases unspecialized ht hu with ⟨hsimple, h⟩ | ⟨hconditional, h⟩ | h
  · rw [h]
    have joins := simpleReference_joins distinct ht hu hsimple
    exact ⟨joins.convertible ht hsimple, joins.symm.convertible hu hsimple⟩
  · rw [h]
    exact convertible_conditional distinct steady steady' hconditional
  · rw [h] at valid ⊢
    exact convertible_commonType distinct steady steady' unspecialized valid

/-- Both operands convert to their common reference and to their common type, where these come from no entry. -/
theorem resolution_sound (t u : Ty ι) (steady : T.volatileClass t = false) (steady' : T.volatileClass u = false)
    (unspecialized : T.Unspecialized t u) :
    ((T.commonReference t u).valid = true →
        T.convertible t (T.commonReference t u) = true ∧ T.convertible u (T.commonReference t u) = true) ∧
      ((T.commonType t u).valid = true →
        T.convertible t (T.commonType t u) = true ∧ T.convertible u (T.commonType t u) = true) :=
  ⟨convertible_commonReference distinct steady steady' unspecialized,
    convertible_commonType distinct steady steady' unspecialized⟩

end Distinct

end Table

namespace Catalogue

/-- An operator to a class answers for a base of that class. -/
theorem resolution_sound_toChild_parent :
    let t := rvalue .toChild
    let u := lvalue .parent
    (separated.volatileClass t = false ∧ separated.volatileClass u = false ∧ separated.Unspecialized t u) ∧
      separated.commonReference t u = value .parent ∧ separated.commonType t u = value .parent ∧
      separated.convertible t (value .parent) = true ∧ separated.convertible u (value .parent) = true := by
  intro t u
  have steady : separated.volatileClass t = false := by decide
  have steady' : separated.volatileClass u = false := by decide
  have unspecialized : separated.Unspecialized t u := ⟨by decide, by decide⟩
  have hreference : separated.commonReference t u = value .parent := by decide
  have htype : separated.commonType t u = value .parent := by decide
  have h := (Table.resolution_sound separated_distinct t u steady steady' unspecialized).1
  rw [hreference] at h
  exact ⟨⟨steady, steady', unspecialized⟩, hreference, htype, h (by decide)⟩

end Catalogue

end Concord
