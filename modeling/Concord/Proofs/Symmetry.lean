import Concord.Catalogue.Numbered
import Concord.Proofs.CommonReference

/-!
# The order of two operands

Entries are registered for ordered pairs. Every other rule gives one answer for both orders, so two operands without an
entry in either order have one common type and one common reference.
-/

namespace Concord

namespace Table

variable {ι : Type} {T : Table ι}

section Distinct

variable (distinct : T.Distinct)

include distinct

theorem commonType_comm {t u : Ty ι} (htu : T.Unspecialized t u) (hut : T.Unspecialized u t) :
    T.commonType t u = T.commonType u t := by
  have hvalue : T.commonByValue t.decay u.decay = T.commonByValue u.decay t.decay := by
    rw [commonByValue, commonByValue, conditional_comm distinct]
  have hconst : T.commonByConstLvalue t.decay u.decay = T.commonByConstLvalue u.decay t.decay := by
    rw [commonByConstLvalue, commonByConstLvalue, conditional_comm distinct]
  simp only [commonType]
  rw [Ty.orElse_of_invalid htu.type, Ty.orElse_of_invalid hut.type, hvalue, hconst, Bool.and_comm]

theorem commonReference_comm {t u : Ty ι} (htu : T.Unspecialized t u) (hut : T.Unspecialized u t) :
    T.commonReference t u = T.commonReference u t := by
  unfold commonReference
  rw [Ty.orElse_of_invalid htu.reference, Ty.orElse_of_invalid hut.reference, simpleReference_comm distinct t u,
    conditional_comm distinct t u, commonType_comm distinct htu hut, Bool.and_comm]

/-- Two operands meet in the same type in both orders, at the conditional operator always and for common types and
references where no entry answers for either order. -/
theorem resolution_comm (t u : Ty ι) :
    T.conditional t u = T.conditional u t ∧
      (T.Unspecialized t u → T.Unspecialized u t →
        T.commonType t u = T.commonType u t ∧ T.simpleReference t u = T.simpleReference u t ∧
          T.commonReference t u = T.commonReference u t) := by
  refine ⟨conditional_comm distinct t u, ?_⟩
  intro htu hut
  exact ⟨commonType_comm distinct htu hut, simpleReference_comm distinct t u,
    commonReference_comm distinct htu hut⟩

end Distinct

end Table

namespace Catalogue

/-- An lvalue of a class and a `const` rvalue of its base. -/
theorem resolution_comm_parent_grand :
    let t := lvalue .parent
    let u := (value .grand).addConst.rvalue
    (separated.Unspecialized t u ∧ separated.Unspecialized u t) ∧
      separated.conditional t u = separated.conditional u t ∧
      separated.commonType t u = separated.commonType u t ∧
      separated.simpleReference t u = separated.simpleReference u t ∧
      separated.commonReference t u = constLvalue .grand ∧ separated.commonReference u t = constLvalue .grand := by
  intro t u
  have htu : separated.Unspecialized t u := ⟨by decide, by decide⟩
  have hut : separated.Unspecialized u t := ⟨by decide, by decide⟩
  obtain ⟨hconditional, hresolution⟩ := Table.resolution_comm separated_distinct t u
  obtain ⟨htype, hsimple, hreference⟩ := hresolution htu hut
  have hvalue : separated.commonReference t u = constLvalue .grand := by decide
  exact ⟨⟨htu, hut⟩, hconditional, htype, hsimple, hvalue, hreference ▸ hvalue⟩

end Catalogue

end Concord
