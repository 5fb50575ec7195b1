import Concord.Catalogue.Numbered
import Concord.Concept.Basic
import Concord.Proofs.Agreement
import Concord.Proofs.Soundness
import Concord.Proofs.Symmetry

/-!
# Concepts on common types

Where no object registers an entry, the concepts on common types ask for no more than that there is one. The answers are
the same in both orders and take both operands; the `const` lvalues of the operands have the common type for a common
reference if nothing better; and the common type has the object of that reference, so that these two have a common
reference again.
-/

namespace Concord

namespace Table

variable {ι : Type} {T : Table ι} {t u : Ty ι}

/-- The common type is the last answer for a common reference. -/
theorem valid_commonReference_of_commonType (unspecialized : T.Unspecialized t u)
    (valid : (T.commonType t u).valid = true) : (T.commonReference t u).valid = true := by
  obtain ⟨ht, hu⟩ := valid_of_commonType valid
  rcases commonReference_cases unspecialized ht hu with ⟨hsimple, h⟩ | ⟨hconditional, h⟩ | h
  · rwa [h]
  · rwa [h]
  · rwa [h]

theorem commonType_of_object_eq {t' u' : Ty ι} (ht : t'.object = t.object) (hu : u'.object = u.object) :
    T.commonType t' u' = T.commonType t u := by
  rw [← T.commonType_decay t' u', ← T.commonType_decay t u, Ty.decay, Ty.decay, ht, hu]
  rfl

/-- Two types of one object have a common type. -/
theorem valid_commonType_of_object_eq (unspecialized : T.Unspecialized t u) (ht : t.valid = true)
    (hobject : t.object = u.object) : (T.commonType t u).valid = true := by
  have hu : u.valid = true := by rwa [Ty.valid, ← hobject]
  have valid : (T.commonByValue t.decay u.decay).valid = true := by
    rw [commonByValue_decay, ← hobject, Ty.decay, conditional_self (by rwa [valid_bare]), object_bare]
    exact ht
  rwa [commonType_eq_commonByValue unspecialized.type ht hu]

theorem isVolatile_asConstLvalue (h : t.cv.isVolatile = false) : t.asConstLvalue.cv.isVolatile = false := by
  apply Ty.isVolatile_build
  apply Ty.isVolatile_build
  cases t.kind with
  | none => simp [RefKind.decorate, Cv.union, Cv.const, h]
  | lvalue => exact h
  | rvalue => exact h

section EntryFree

variable (distinct : T.Distinct) (free : T.EntryFree) (ht : t.cv.isVolatile = false) (hu : u.cv.isVolatile = false)

include distinct free ht hu

theorem commonReferenceWith_iff_valid :
    T.commonReferenceWith t u = true ↔ (T.commonReference t u).valid = true := by
  unfold commonReferenceWith convertibleTo
  simp only [Bool.and_eq_true]
  constructor
  · rintro ⟨⟨-, converts⟩, -⟩
    exact (valid_of_convertible converts).2
  · intro valid
    obtain ⟨hleft, hright⟩ := convertible_commonReference distinct (volatileClass_of_cv ht) (volatileClass_of_cv hu)
      (free.unspecialized t u) valid
    refine ⟨⟨?_, hleft⟩, hright⟩
    rw [← commonReference_comm distinct (free.unspecialized t u) (free.unspecialized u t)]
    simp [same]

/-- The common reference has the object of the common type. -/
theorem object_commonReference (acyclic : T.Acyclic) (valid : (T.commonReference t u).valid = true) :
    (T.commonReference t u).object = (T.commonType t u).object := by
  obtain ⟨hvt, hvu⟩ := valid_of_commonReference valid
  have unspecialized := free.unspecialized t u
  rcases commonReference_cases unspecialized hvt hvu with ⟨hsimple, h⟩ | ⟨hconditional, h⟩ | h
  · have hvalue := commonByValue_of_simpleReference acyclic distinct hvt hvu (steady_of_cv ht) (steady_of_cv hu) hsimple
    rw [h, commonType_eq_commonByValue unspecialized.type hvt hvu, hvalue, Ty.object_decay]
  · have hvalue := commonByValue_of_conditional acyclic distinct (volatileClass_of_cv ht) (volatileClass_of_cv hu)
      hconditional
    rw [h, commonType_eq_commonByValue unspecialized.type hvt hvu, hvalue, Ty.object_decay]
  · rw [h]

/-- The common type as an lvalue and the common reference of the `const` lvalues have a common reference. -/
theorem commonReferenceWith_commonType (acyclic : T.Acyclic) (valid : (T.commonType t u).valid = true) :
    T.commonReferenceWith (T.commonType t u).addLvalueReference
      (T.commonReference t.asConstLvalue u.asConstLvalue) = true := by
  have hleft := isVolatile_asConstLvalue ht
  have hright := isVolatile_asConstLvalue hu
  have unspecialized := free.unspecialized t.asConstLvalue u.asConstLvalue
  have hcommon : T.commonType t.asConstLvalue u.asConstLvalue = T.commonType t u :=
    commonType_of_object_eq (Ty.object_asConstLvalue t) (Ty.object_asConstLvalue u)
  have hreference : (T.commonReference t.asConstLvalue u.asConstLvalue).valid = true := by
    apply valid_commonReference_of_commonType unspecialized
    rwa [hcommon]
  -- Both are about one object now, which is enough for a common type and so for a common reference.
  have hobject := object_commonReference distinct free hleft hright acyclic hreference
  have hsteady : (T.commonType t u).addLvalueReference.cv.isVolatile = false := by
    apply Ty.isVolatile_build
    rw [← decay_commonType (free.unspecialized t u)]
    rfl
  rw [commonReferenceWith_iff_valid distinct free hsteady
    (isVolatile_commonReference distinct unspecialized hleft hright)]
  apply valid_commonReference_of_commonType (free.unspecialized _ _)
  apply valid_commonType_of_object_eq (free.unspecialized _ _)
  · rwa [Ty.valid, Ty.object_addLvalueReference]
  · rw [Ty.object_addLvalueReference, hobject, hcommon]

end EntryFree

/-- Without entries the concepts hold of two types that are not volatile exactly if they have a common type, or a common
reference. -/
theorem commonWith_iff_valid (acyclic : T.Acyclic) (distinct : T.Distinct) (free : T.EntryFree) (t u : Ty ι)
    (ht : t.cv.isVolatile = false) (hu : u.cv.isVolatile = false) :
    (T.commonWith t u = true ↔ (T.commonType t u).valid = true) ∧
      (T.commonReferenceWith t u = true ↔ (T.commonReference t u).valid = true) := by
  refine ⟨⟨?_, ?_⟩, commonReferenceWith_iff_valid distinct free ht hu⟩
  · intro h
    simp only [commonWith, Bool.and_eq_true] at h
    obtain ⟨⟨⟨⟨-, converts⟩, -⟩, -⟩, -⟩ := h
    exact (valid_of_convertible converts).2
  · intro valid
    have unspecialized := free.unspecialized t u
    obtain ⟨hleft, hright⟩ := convertible_commonType distinct (volatileClass_of_cv ht) (volatileClass_of_cv hu)
      unspecialized valid
    have hsame : T.same (T.commonType t u) (T.commonType u t) = true := by
      rw [← commonType_comm distinct unspecialized (free.unspecialized u t)]
      simp [same]
    have hconst : T.commonReferenceWith t.asConstLvalue u.asConstLvalue = true := by
      rw [commonReferenceWith_iff_valid distinct free (isVolatile_asConstLvalue ht) (isVolatile_asConstLvalue hu)]
      apply valid_commonReference_of_commonType (free.unspecialized _ _)
      rwa [commonType_of_object_eq (Ty.object_asConstLvalue t) (Ty.object_asConstLvalue u)]
    have hshared := commonReferenceWith_commonType distinct free ht hu acyclic valid
    simp only [commonWith, convertibleTo, Bool.and_eq_true]
    exact ⟨⟨⟨⟨hsame, hleft⟩, hright⟩, hconst⟩, hshared⟩

end Table

namespace Catalogue

theorem entryless_entryFree : entryless.EntryFree where
  types o := by cases o <;> rfl
  references o := by cases o <;> rfl

/-- An operator to a class converts to a base of that class. -/
theorem commonWith_iff_valid_toChild_parent :
    let t := rvalue .toChild
    let u := lvalue .parent
    (entryless.EntryFree ∧ t.cv.isVolatile = false ∧ u.cv.isVolatile = false) ∧
      entryless.commonType t u = value .parent ∧ entryless.commonReference t u = value .parent ∧
      entryless.commonWith t u = true ∧ entryless.commonReferenceWith t u = true := by
  intro t u
  have ht : t.cv.isVolatile = false := by decide
  have hu : u.cv.isVolatile = false := by decide
  have htype : entryless.commonType t u = value .parent := by decide
  have hreference : entryless.commonReference t u = value .parent := by decide
  obtain ⟨hwith, hreferenceWith⟩ :=
    Table.commonWith_iff_valid entryless_acyclic entryless_distinct entryless_entryFree t u ht hu
  refine ⟨⟨entryless_entryFree, ht, hu⟩, htype, hreference, hwith.2 ?_, hreferenceWith.2 ?_⟩
  · rw [htype]
    decide
  · rw [hreference]
    decide

end Catalogue

end Concord
