import Concord.Proofs.Conditional

/-!
# References to both operands

A reference that answers for two operands refers to an object that both are or derive from, with the qualifiers of both,
and it keeps their value category unless it is exactly `const`. `Joins` says so of a reference; the conditional operator
gives no other ones.
-/

namespace Concord

namespace Table

variable {ι : Type} (T : Table ι)

/-- `r` is a reference that both operands bind to as they are. -/
structure Joins (t u r : Ty ι) : Prop where
  left : T.refCompatible t r = true
  right : T.refCompatible u r = true
  category : (r.isXvalue = true ∧ t.isLvalue = false ∧ u.isLvalue = false) ∨
    (r.isLvalue = true ∧ (r.cv = .const ∨ (t.isLvalue = true ∧ u.isLvalue = true)))

variable {T} {t u r : Ty ι}

theorem Joins.symm (h : T.Joins t u r) : T.Joins u t r where
  left := h.right
  right := h.left
  category := by
    rcases h.category with ⟨hr, ht, hu⟩ | ⟨hr, const | ⟨ht, hu⟩⟩
    · exact Or.inl ⟨hr, hu, ht⟩
    · exact Or.inr ⟨hr, Or.inl const⟩
    · exact Or.inr ⟨hr, Or.inr ⟨hu, ht⟩⟩

/-- An operand converts to every reference that it is joined by. -/
theorem Joins.convertible (h : T.Joins t u r) (ht : t.valid = true) (hr : r.valid = true) :
    T.convertible t r = true := by
  rcases h.category with ⟨xvalue, hlvalue, -⟩ | ⟨lvalue, const | ⟨hlvalue, -⟩⟩
  · exact convertible_of_isXvalue ht hr xvalue h.left hlvalue
  · exact convertible_of_isLvalue ht hr lvalue h.left (Or.inr const)
  · exact convertible_of_isLvalue ht hr lvalue h.left (Or.inl hlvalue)

theorem refCompatible_self (t : Ty ι) : T.refCompatible t t = true := by
  simp [refCompatible, refRelated]

/-- An rvalue reference binds to itself. -/
theorem convertible_self_of_isXvalue (valid : t.valid = true) (hkind : t.isXvalue = true) :
    T.convertible t t = true := by
  apply convertible_of_isXvalue valid valid hkind (refCompatible_self t)
  rw [Ty.isLvalue, Ty.isXvalue_iff.1 hkind]
  rfl

theorem refCompatible_of_covers (related : T.sameOrDerived t.object r.object = true)
    (covers : r.cv.covers t.cv = true) : T.refCompatible t r = true := by
  simp [refCompatible, refRelated, related, covers]

/-- An lvalue reference that takes an expression other than an lvalue is exactly `const`. -/
theorem cv_eq_const_of_convertible (converts : T.convertible t r = true) (hr : r.isLvalue = true)
    (ht : t.isLvalue = false) : r.cv = .const := by
  have hkind := Ty.isLvalue_iff.1 hr
  by_cases const : r.cv = .const
  · exact const
  · simp [convertible, hkind, const, ht] at converts

/-- Where an operand binds directly, the other operand joins both. -/
theorem joins_of_bindsDirectly (valid : u.valid = true) (binds : T.bindsDirectly t u = true) :
    T.Joins t u u.canon := by
  have hkind := Ty.kind_canon_of_valid valid
  simp only [bindsDirectly, Bool.and_eq_true, Bool.or_eq_true] at binds
  obtain ⟨compatible, category⟩ := binds
  refine ⟨by rwa [refCompatible_canon valid], by rw [refCompatible_canon valid]; exact refCompatible_self u, ?_⟩
  simp only [Ty.isLvalue, Ty.isXvalue, Ty.isPrvalue, beq_iff_eq] at category
  rcases category with ⟨hu, ht⟩ | ⟨hu, ht | ⟨ht, -⟩⟩
  · exact Or.inr ⟨by simp [Ty.isLvalue, hkind, hu], Or.inr ⟨by simp [Ty.isLvalue, ht], by simp [Ty.isLvalue, hu]⟩⟩
  · exact Or.inl ⟨by simp [Ty.isXvalue, hkind, hu], by simp [Ty.isLvalue, ht], by simp [Ty.isLvalue, hu]⟩
  · exact Or.inl ⟨by simp [Ty.isXvalue, hkind, hu], by simp [Ty.isLvalue, ht], by simp [Ty.isLvalue, hu]⟩

section Distinct

variable (distinct : T.Distinct)

include distinct

/-- Two glvalues of one type and category bind to each other. -/
theorem bindsDirectly_of_glvalue (reference : t.isReference = true) (hkind : t.kind = u.kind)
    (same : T.sameReferent t u = true) : T.bindsDirectly t u = true := by
  simp only [sameReferent, Bool.and_eq_true, beq_iff_eq, distinct.sameObject_iff] at same
  have compatible : T.refCompatible t u = true := by
    simp [refCompatible, refRelated, same.1, same.2]
  cases h : u.kind with
  | none => simp [Ty.isReference, hkind, h, RefKind.isReference] at reference
  | lvalue => simp [bindsDirectly, compatible, Ty.isLvalue, hkind, h]
  | rvalue => simp [bindsDirectly, compatible, Ty.isXvalue, hkind, h]

theorem Meets.bindsDirectly (meets : T.Meets t u r) (reference : r.isReference = true) :
    T.bindsDirectly t u = true ∧ r = u.canon := by
  cases meets with
  | glvalue ht hkind same =>
      refine ⟨bindsDirectly_of_glvalue distinct ht hkind same, ?_⟩
      simp only [sameReferent, Bool.and_eq_true, beq_iff_eq, distinct.sameObject_iff] at same
      rw [Ty.canon, Ty.canon, same.1, same.2, hkind]
  | bind _ binds => exact ⟨binds, rfl⟩
  | value => simp [Ty.isReference, RefKind.isReference] at reference
  | sameValue => simp [Ty.isReference, RefKind.isReference] at reference
  | number => simp [Ty.isReference, Ty.kind, RefKind.isReference] at reference

/-- A reference that the conditional operator answers joins its operands. -/
theorem conditional_joins (valid : (T.conditional t u).valid = true)
    (reference : (T.conditional t u).isReference = true) : T.Joins t u (T.conditional t u) := by
  obtain ⟨ht, hu⟩ := T.valid_of_conditional valid
  rcases conditional_meets distinct valid with meets | meets
  · obtain ⟨binds, hr⟩ := meets.bindsDirectly distinct reference
    rw [hr]
    exact joins_of_bindsDirectly hu binds
  · obtain ⟨binds, hr⟩ := meets.bindsDirectly distinct reference
    rw [hr]
    exact (joins_of_bindsDirectly ht binds).symm

/-- A reference that the conditional operator answers is one of its operands. -/
theorem conditional_eq_canon (valid : (T.conditional t u).valid = true)
    (reference : (T.conditional t u).isReference = true) :
    T.conditional t u = t.canon ∨ T.conditional t u = u.canon := by
  rcases conditional_meets distinct valid with meets | meets
  · exact Or.inr (meets.bindsDirectly distinct reference).2
  · exact Or.inl (meets.bindsDirectly distinct reference).2

end Distinct

end Table

end Concord
