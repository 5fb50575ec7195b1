import Concord.Catalogue.Numbered
import Concord.Proofs.CommonReference

/-!
# Common references refer to their operands

A common reference that no entry gives never refers to a temporary that one of its operands was converted to: both
operands bind to it as they are, and it takes an operand of another value category only if it is exactly `const`.
-/

namespace Concord

namespace Table

variable {ι : Type} {T : Table ι} {t u : Ty ι}

theorem commonReference_joins (distinct : T.Distinct) (unspecialized : T.Unspecialized t u)
    (reference : (T.commonReference t u).isReference = true) : T.Joins t u (T.commonReference t u) := by
  obtain ⟨ht, hu⟩ := valid_of_isReference_commonReference reference
  rcases commonReference_cases unspecialized ht hu with ⟨valid, h⟩ | ⟨valid, h⟩ | h
  · rw [h]
    exact simpleReference_joins distinct ht hu valid
  · rw [h] at reference ⊢
    exact conditional_joins distinct valid reference
  · rw [h, isReference_commonType unspecialized] at reference
    contradiction

/-- A common reference without an entry is compatible with both operands. An rvalue reference has no lvalue operand, and
an lvalue reference that is not exactly `const` has two. -/
theorem commonReference_binds (distinct : T.Distinct) (t u : Ty ι) (unspecialized : T.Unspecialized t u)
    (reference : (T.commonReference t u).isReference = true) :
    (T.refCompatible t (T.commonReference t u) = true ∧ T.refCompatible u (T.commonReference t u) = true) ∧
      ((T.commonReference t u).isXvalue = true → t.isLvalue = false ∧ u.isLvalue = false) ∧
      ((T.commonReference t u).isLvalue = true → (T.commonReference t u).cv ≠ .const →
        t.isLvalue = true ∧ u.isLvalue = true) := by
  have joins := commonReference_joins distinct unspecialized reference
  refine ⟨⟨joins.left, joins.right⟩, ?_, ?_⟩
  · intro xvalue
    rcases joins.category with ⟨-, categories⟩ | ⟨lvalue, -⟩
    · exact categories
    · rw [Ty.isXvalue_iff, Ty.isLvalue_iff.1 lvalue] at xvalue
      contradiction
  · intro lvalue hconst
    rcases joins.category with ⟨xvalue, -⟩ | ⟨-, const | categories⟩
    · rw [Ty.isLvalue_iff, Ty.isXvalue_iff.1 xvalue] at lvalue
      contradiction
    · exact absurd const hconst
    · exact categories

end Table

namespace Catalogue

/-- A `volatile` lvalue of a class and a `const` lvalue of its base refer to the base with both qualifiers. -/
theorem commonReference_binds_child_parent :
    let t := (value .child).addVolatile.addLvalueReference
    let u := constLvalue .parent
    let r := ((value .parent).addCv .constVolatile).addLvalueReference
    separated.Unspecialized t u ∧ separated.commonReference t u = r ∧
      (separated.refCompatible t r = true ∧ separated.refCompatible u r = true) ∧
      (r.isXvalue = true → t.isLvalue = false ∧ u.isLvalue = false) ∧
      (r.isLvalue = true → r.cv ≠ .const → t.isLvalue = true ∧ u.isLvalue = true) := by
  intro t u r
  have unspecialized : separated.Unspecialized t u := ⟨by decide, by decide⟩
  have hreference : separated.commonReference t u = r := by decide
  have h := Table.commonReference_binds separated_distinct t u unspecialized (by rw [hreference]; decide)
  rw [hreference] at h
  exact ⟨unspecialized, hreference, h⟩

end Catalogue

end Concord
