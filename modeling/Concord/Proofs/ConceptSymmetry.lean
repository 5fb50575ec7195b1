import Concord.Catalogue.Numbered
import Concord.Concept.Comparison
import Concord.Proofs.Canonical

/-!
# The order of the types in a concept

A registered entry answers for one order of two types, so common types and common references depend on the order. The
concepts on two types do not: each of them that reads an answer for one order first asks whether the other order has the
same answer.
-/

namespace Concord

namespace Table

variable {ι : Type} {T : Table ι} {t u : Ty ι}

theorem weaklyEqualityComparableWith_comm (t u : Ty ι) :
    T.weaklyEqualityComparableWith t u = T.weaklyEqualityComparableWith u t := Bool.and_comm _ _

theorem same_comm (t u : Ty ι) : T.same t u = T.same u t := Bool.and_comm _ _

section Distinct

variable (distinct : T.Distinct)

include distinct

/-- Canonical spellings are the same type only if they are spelled alike. -/
theorem eq_of_same (ht : t.Canonical) (hu : u.Canonical) (h : T.same t u = true) : t = u := by
  rw [same, Bool.and_eq_true] at h
  exact distinct.eq_of_isSame ht hu h.1

theorem commonReference_eq_of_commonReferenceWith (h : T.commonReferenceWith t u = true) :
    T.commonReference t u = T.commonReference u t := by
  simp only [commonReferenceWith, Bool.and_eq_true] at h
  exact eq_of_same distinct (canonical_commonReference t u) (canonical_commonReference u t) h.1.1

/-- Both types convert to the one answer that the two orders have. -/
theorem commonReferenceWith_symm (h : T.commonReferenceWith t u = true) : T.commonReferenceWith u t = true := by
  have hreference := commonReference_eq_of_commonReferenceWith distinct h
  simp only [commonReferenceWith, convertibleTo, Bool.and_eq_true] at h ⊢
  obtain ⟨⟨hsame, hleft⟩, hright⟩ := h
  rw [same_comm, ← hreference]
  rw [← hreference] at hsame
  exact ⟨⟨hsame, hright⟩, hleft⟩

/-- The common types of the two orders are one, and so are the common references of the `const` lvalues, before these two
answers are compared with each other. -/
theorem commonWith_symm (h : T.commonWith t u = true) : T.commonWith u t = true := by
  simp only [commonWith, convertibleTo, Bool.and_eq_true] at h ⊢
  obtain ⟨⟨⟨⟨hsame, hleft⟩, hright⟩, hconst⟩, hshared⟩ := h
  have htype : T.commonType t u = T.commonType u t :=
    eq_of_same distinct (canonical_commonType t u) (canonical_commonType u t) hsame
  have hreference := commonReference_eq_of_commonReferenceWith distinct hconst
  rw [← htype] at hsame ⊢
  rw [← hreference]
  exact ⟨⟨⟨⟨hsame, hright⟩, hleft⟩, commonReferenceWith_symm distinct hconst⟩, hshared⟩

theorem equalityComparableWith_symm (h : T.equalityComparableWith t u = true) :
    T.equalityComparableWith u t = true := by
  simp only [equalityComparableWith, Bool.and_eq_true] at h ⊢
  obtain ⟨⟨⟨⟨hleft, hright⟩, hconst⟩, hreference⟩, hweak⟩ := h
  rw [commonReference_eq_of_commonReferenceWith distinct hconst] at hreference
  rw [weaklyEqualityComparableWith_comm]
  exact ⟨⟨⟨⟨hright, hleft⟩, commonReferenceWith_symm distinct hconst⟩, hreference⟩, hweak⟩

theorem strictTotallyOrderedWith_symm (h : T.strictTotallyOrderedWith t u = true) :
    T.strictTotallyOrderedWith u t = true := by
  simp only [strictTotallyOrderedWith, Bool.and_eq_true] at h ⊢
  obtain ⟨⟨⟨⟨⟨⟨hleft, hright⟩, hconst⟩, hreference⟩, hequality⟩, hordering⟩, hordering'⟩ := h
  rw [commonReference_eq_of_commonReferenceWith distinct hconst] at hreference
  exact ⟨⟨⟨⟨⟨⟨hright, hleft⟩, commonReferenceWith_symm distinct hconst⟩, hreference⟩,
    equalityComparableWith_symm distinct hequality⟩, hordering'⟩, hordering⟩

theorem swappableWith_symm (h : T.swappableWith t u = true) : T.swappableWith u t = true := by
  simp only [swappableWith, Bool.and_eq_true] at h ⊢
  obtain ⟨⟨⟨⟨hleft, hright⟩, hconst⟩, hforth⟩, hback⟩ := h
  exact ⟨⟨⟨⟨hright, hleft⟩, commonReferenceWith_symm distinct hconst⟩, hback⟩, hforth⟩

/-- The concepts on two types hold of both orders or of neither, whatever entries are registered for either order. -/
theorem concepts_comm (t u : Ty ι) :
    T.commonReferenceWith t u = T.commonReferenceWith u t ∧ T.commonWith t u = T.commonWith u t ∧
      T.weaklyEqualityComparableWith t u = T.weaklyEqualityComparableWith u t ∧
      T.equalityComparableWith t u = T.equalityComparableWith u t ∧
      T.strictTotallyOrderedWith t u = T.strictTotallyOrderedWith u t ∧
      T.swappableWith t u = T.swappableWith u t := by
  refine ⟨?_, ?_, weaklyEqualityComparableWith_comm t u, ?_, ?_, ?_⟩
  · exact Bool.eq_iff_iff.2 ⟨commonReferenceWith_symm distinct, commonReferenceWith_symm distinct⟩
  · exact Bool.eq_iff_iff.2 ⟨commonWith_symm distinct, commonWith_symm distinct⟩
  · exact Bool.eq_iff_iff.2 ⟨equalityComparableWith_symm distinct, equalityComparableWith_symm distinct⟩
  · exact Bool.eq_iff_iff.2 ⟨strictTotallyOrderedWith_symm distinct, strictTotallyOrderedWith_symm distinct⟩
  · exact Bool.eq_iff_iff.2 ⟨swappableWith_symm distinct, swappableWith_symm distinct⟩

end Distinct

end Table

namespace Catalogue

/-- A number with an entry for another one, which has none for it: their two common types are not the same. -/
theorem concepts_comm_half_i32 :
    let t := value .half
    let u := value .i32
    separated.Distinct ∧ separated.commonType t u = value .half ∧ separated.commonType u t = value .f32 ∧
      (separated.commonWith t u = false ∧ separated.commonWith u t = false) ∧
      separated.strictTotallyOrderedWith t u = true ∧ separated.strictTotallyOrderedWith u t = true := by
  intro t u
  obtain ⟨-, hwith, -, -, hordered, -⟩ := Table.concepts_comm separated_distinct t u
  have hcommon : separated.commonWith t u = false := by decide
  have horder : separated.strictTotallyOrderedWith t u = true := by decide
  exact ⟨separated_distinct, by decide, by decide, ⟨hcommon, hwith ▸ hcommon⟩, horder, hordered ▸ horder⟩

end Catalogue

end Concord
