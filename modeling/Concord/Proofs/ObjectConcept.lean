import Concord.Catalogue.Numbered
import Concord.Concept.Assignment
import Concord.Proofs.Absorption
import Concord.Proofs.Validity

/-!
# Concepts on moving, copying and swapping

These concepts ask for constructions and assignments from one type under many decorations. A value conversion reads of
its source the object and whether it is volatile, and the decorations leave both as they are, so all of the concepts come
to one question: whether the type converts to itself. The common references that they ask for are those of a reference and
itself, which the simple rules answer before any registered entry.
-/

namespace Concord

namespace Table

variable {ι : Type} {T : Table ι} {s t u left right : Ty ι}

/-! ## What a value conversion reads -/

/-- Types of one object that are both volatile or both not. -/
structure Akin (s t : Ty ι) : Prop where
  object_eq : s.object = t.object
  volatile_eq : s.cv.isVolatile = t.cv.isVolatile

theorem Akin.symm (akin : Akin s t) : Akin t s := ⟨akin.object_eq.symm, akin.volatile_eq.symm⟩

theorem Akin.trans (hst : Akin s t) (htu : Akin t u) : Akin s u :=
  ⟨hst.object_eq.trans htu.object_eq, hst.volatile_eq.trans htu.volatile_eq⟩

/-- A conversion to a value does not tell its source from others that are akin. -/
theorem Akin.convertible_eq (akin : Akin s t) (value : u.kind = .none) : T.convertible s u = T.convertible t u := by
  simp [convertible_of_kind_none value, Ty.valid, valueConvertible, anyFrom, standardConvertible, akin.object_eq,
    akin.volatile_eq]

theorem Akin.constLvalue_eq (akin : Akin s t) : s.constLvalue = t.constLvalue := by
  rw [Ty.constLvalue, Ty.constLvalue, Cv.withConst, Cv.withConst, akin.object_eq, akin.volatile_eq]

theorem akin_build (ht : t.valid = true) {c : Cv} {k : RefKind} (h : c.isVolatile = t.cv.isVolatile) :
    Akin (.build t.object c k) t where
  object_eq := Ty.object_build _ _ _
  volatile_eq := by rwa [Ty.cv_build_of_valid ht]

theorem akin_removeReference (ht : t.valid = true) : Akin t.removeReference t := akin_build ht rfl

theorem akin_rvalue (ht : t.valid = true) : Akin t.rvalue t := akin_build ht rfl

theorem akin_addLvalueReference (ht : t.valid = true) : Akin t.addLvalueReference t := akin_build ht rfl

theorem akin_addConst (ht : t.valid = true) : Akin t.addConst t := by
  apply akin_build ht
  cases t.kind with
  | none => simp [RefKind.decorate, Cv.union, Cv.const]
  | lvalue => rfl
  | rvalue => rfl

theorem akin_asConstLvalue (ht : t.valid = true) : Akin t.asConstLvalue t := by
  have hconst : t.addConst.valid = true := (Ty.valid_addConst t).trans ht
  exact (akin_addLvalueReference hconst).trans (akin_addConst ht)

/-! ## Construction and assignment -/

/-- Construction from one argument asks for a conversion, and so does the concept that asks for the construction. -/
theorem constructible_singleton (t u : Ty ι) : T.constructible t [u] = T.convertible u t := by
  cases h : T.convertible u t with
  | true => simp [constructible, destructible, h, (valid_of_convertible h).2]
  | false => simp [constructible, h]

theorem moveConstructible_eq (t : Ty ι) : T.moveConstructible t = T.convertible t t := by
  rw [moveConstructible, constructible_singleton, convertibleTo, Bool.and_self]

/-- A value that is converted to itself is constructed from all lvalues and values of its type. -/
theorem copyConstructible_eq (ht : t.valid = true) (value : t.kind = .none) :
    T.copyConstructible t = T.convertible t t := by
  simp [copyConstructible, moveConstructible_eq, constructible_singleton, convertibleTo,
    (akin_addLvalueReference ht).convertible_eq value, (akin_asConstLvalue ht).convertible_eq value,
    (akin_addConst ht).convertible_eq value]

theorem assigns_iff :
    T.assigns left right = true ↔
      left.isLvalue = true ∧ left.cv.isConst = false ∧ T.convertible right (.plain left.object) = true := by
  rw [assigns, assignment]
  by_cases h : (left.isLvalue && (!left.cv.isConst && T.convertible right (.plain left.object))) = true
  · have hvalid : left.valid = true := by
      simp only [Bool.and_eq_true] at h
      exact (valid_of_convertible h.2.2).2
    rw [if_pos h, hvalid]
    simpa [same] using h
  · rw [if_neg h]
    simpa using h

theorem convertible_self_of_isReference (ht : t.valid = true) (reference : t.isReference = true) :
    T.convertible t t = true := by
  rcases Ty.isReference_iff.1 reference with hkind | hkind
  · have lvalue := Ty.isLvalue_iff.2 hkind
    exact convertible_of_isLvalue ht ht lvalue (refCompatible_self t) (Or.inl lvalue)
  · exact convertible_self_of_isXvalue ht (Ty.isXvalue_iff.2 hkind)

/-- The simple rules answer for a reference and itself, before any entry. -/
theorem commonReferenceWith_self (ht : t.valid = true) (reference : t.isReference = true) :
    T.commonReferenceWith t t = true := by
  simp [commonReferenceWith, commonReference_self ht reference, convertibleTo, same,
    convertible_self_of_isReference ht reference]

theorem isReference_constLvalue (ht : t.valid = true) : t.constLvalue.isReference = true := by
  rw [Ty.isReference_iff, Ty.constLvalue, Ty.kind_build_of_valid ht]
  exact Or.inl rfl

/-- Between akin types the common reference of the concept is that of one `const` lvalue and itself. -/
theorem assignable_iff_assigns (akin : Akin right left) :
    T.assignable left right = true ↔ T.assigns left right = true := by
  rw [assignable, Bool.and_eq_true, Bool.and_eq_true, akin.constLvalue_eq]
  constructor
  · exact And.right
  · intro h
    obtain ⟨lvalue, -, converts⟩ := assigns_iff.1 h
    have hvalid : left.valid = true := (valid_of_convertible converts).2
    have hself : T.commonReferenceWith left.constLvalue left.constLvalue = true :=
      commonReferenceWith_self ((Ty.valid_constLvalue left).trans hvalid) (isReference_constLvalue hvalid)
    exact ⟨⟨lvalue, hself⟩, h⟩

/-- To the lvalue of a type an assignment is made from all akin types. -/
theorem assigns_addLvalueReference_iff (ht : t.valid = true) (akin : Akin s t) :
    T.assigns t.addLvalueReference s = true ↔ t.cv.isConst = false ∧ T.convertible t (.plain t.object) = true := by
  have hkind : t.addLvalueReference.isLvalue = true := by
    rw [Ty.isLvalue_iff, Ty.addLvalueReference, Ty.kind_build_of_valid ht]
    rfl
  have hcv : t.addLvalueReference.cv = t.cv := Ty.cv_build_of_valid ht _ _
  rw [assigns_iff, hcv, Ty.object_addLvalueReference, akin.convertible_eq rfl]
  exact and_iff_right hkind

theorem assignable_addLvalueReference_iff (ht : t.valid = true) (akin : Akin s t) :
    T.assignable t.addLvalueReference s = true ↔ t.cv.isConst = false ∧ T.convertible t (.plain t.object) = true := by
  rw [assignable_iff_assigns (akin.trans (akin_addLvalueReference ht).symm), assigns_addLvalueReference_iff ht akin]

/-! ## Concepts on objects -/

/-- A value converts to itself as to its object. -/
theorem convertible_self_of_kind_none (value : t.kind = .none) :
    T.convertible t t = T.convertible t (.plain t.object) := by
  rw [convertible_of_kind_none value, convertible_plain]
  rfl

/-- Lvalues of a type are swapped if the type is not `const` and gives a value. -/
theorem swappable_iff :
    T.swappable t = true ↔ t.cv.isConst = false ∧ T.convertible t (.plain t.object) = true := by
  by_cases ht : t.valid = true
  · have hreferent : t.removeReference.valid = true := (Ty.valid_removeReference t).trans ht
    have akin := akin_removeReference ht
    rw [swappable, Bool.and_eq_true, moveConstructible_eq, convertible_self_of_kind_none (Ty.kind_removeReference t),
      assigns_addLvalueReference_iff hreferent ((akin_rvalue ht).trans akin.symm), Ty.cv_removeReference_of_valid ht,
      Ty.object_removeReference, akin.convertible_eq rfl]
    -- The construction asks for no more than the assignment does.
    exact and_iff_right_of_imp And.right
  · constructor
    · exact fun h => absurd (valid_of_swappable h) ht
    · exact fun h => absurd (valid_of_convertible h.2).1 ht

theorem swappable_removeReference (t : Ty ι) : T.swappable t.removeReference = T.swappable t := by
  have hreferent : t.removeReference.removeReference = t.removeReference := Ty.removeReference_build _ _ _
  have hrvalue : t.removeReference.rvalue = t.rvalue := Ty.rvalue_build _ _ _
  rw [swappable, swappable, hreferent, hrvalue]

theorem movable_iff :
    T.movable t = true ↔
      t.valid = true ∧ t.isReference = false ∧ t.cv.isConst = false ∧ T.convertible t t = true := by
  have hvalue : t.isPrvalue = true ↔ t.isReference = false := by
    rw [Ty.isReference_eq_false_iff, Ty.isPrvalue, beq_iff_eq]
  simp only [movable, Bool.and_eq_true, hvalue, moveConstructible_eq]
  constructor
  · rintro ⟨⟨⟨⟨ht, value⟩, converts⟩, -⟩, swap⟩
    exact ⟨ht, value, (swappable_iff.1 swap).1, converts⟩
  · rintro ⟨ht, value, mutable, converts⟩
    have copies := converts
    rw [convertible_self_of_kind_none (Ty.isReference_eq_false_iff.1 value)] at copies
    have assigned := (assignable_addLvalueReference_iff ht ⟨rfl, rfl⟩).2 ⟨mutable, copies⟩
    exact ⟨⟨⟨⟨ht, value⟩, converts⟩, assigned⟩, swappable_iff.2 ⟨mutable, copies⟩⟩

theorem swappable_of_movable (h : T.movable t = true) : T.swappable t = true := by
  simp only [movable, Bool.and_eq_true] at h
  exact h.2

/-- A type whose values are moved is copied too, as both ask for one conversion. -/
theorem copyable_of_movable (h : T.movable t = true) : T.copyable t = true := by
  obtain ⟨ht, value, -, converts⟩ := movable_iff.1 h
  have assigned : T.assignable t.addLvalueReference t.asConstLvalue = true :=
    (assignable_addLvalueReference_iff ht (akin_asConstLvalue ht)).2 (swappable_iff.1 (swappable_of_movable h))
  simp only [copyable, Bool.and_eq_true, copyConstructible_eq ht (Ty.isReference_eq_false_iff.1 value)]
  exact ⟨⟨converts, h⟩, assigned⟩

theorem semiregular_of_movable (h : T.movable t = true) : T.semiregular t = true := by
  obtain ⟨ht, value, -, -⟩ := movable_iff.1 h
  have hdefault : T.defaultConstructible t = true := by
    simp [defaultConstructible, constructible, destructible, ht, Ty.isPrvalue, Ty.isReference_eq_false_iff.1 value]
  rw [semiregular, copyable_of_movable h, hdefault, Bool.and_self]

theorem swappable_iff_movable : T.swappable t = true ↔ T.movable t.removeReference = true := by
  rw [← swappable_removeReference, swappable_iff, movable_iff,
    convertible_self_of_kind_none (Ty.kind_removeReference t)]
  constructor
  · rintro ⟨mutable, copies⟩
    exact ⟨(valid_of_convertible copies).1, Ty.isReference_eq_false_iff.2 (Ty.kind_removeReference t), mutable, copies⟩
  · rintro ⟨-, -, h⟩
    exact h

/-- A type is movable if it is a valid type that is neither a reference nor `const` and converts to itself. To be copyable
or semiregular takes no more, and lvalues are swapped if what they refer to is movable. -/
theorem objectConcepts_collapse (T : Table ι) (t : Ty ι) :
    (T.movable t = true ↔
        t.valid = true ∧ t.isReference = false ∧ t.cv.isConst = false ∧ T.convertible t t = true) ∧
      T.copyable t = T.movable t ∧ T.semiregular t = T.movable t ∧
      T.swappable t = T.movable t.removeReference := by
  refine ⟨movable_iff, ?_, ?_, Bool.eq_iff_iff.2 swappable_iff_movable⟩
  · rw [Bool.eq_iff_iff]
    constructor
    · intro h
      simp only [copyable, Bool.and_eq_true] at h
      exact h.1.2
    · exact copyable_of_movable
  · rw [Bool.eq_iff_iff]
    constructor
    · intro h
      simp only [semiregular, copyable, Bool.and_eq_true] at h
      exact h.1.1.2
    · exact semiregular_of_movable

/-- A volatile class is not copied, a volatile number is. -/
example : Catalogue.separated.movable (Catalogue.value .base).addVolatile = false ∧
    Catalogue.separated.movable (Catalogue.value .i32).addVolatile = true := by
  decide

/-! ## Swapping two expressions -/

theorem swapExpression_self_iff :
    T.swapExpression t t = true ↔ t.isLvalue = true ∧ T.movable t.removeReference = true := by
  simp [swapExpression, same, swappable_removeReference, swappable_iff_movable]

/-- Lvalues that can be swapped refer to one type with one qualification. -/
theorem isSame_of_swapExpression (h : T.swapExpression t u = true) (hu : u.valid = true) : T.isSame t u = true := by
  simp only [swapExpression, Bool.and_eq_true] at h
  obtain ⟨⟨⟨lvalue, lvalue'⟩, hsame⟩, swap⟩ := h
  have ht : t.valid = true := (Ty.valid_removeReference t).symm.trans (valid_of_swappable swap)
  simp only [same, isSame, Bool.and_eq_true, Ty.object_removeReference, Ty.cv_removeReference_of_valid ht,
    Ty.cv_removeReference_of_valid hu] at hsame
  obtain ⟨⟨hobject, hcv, -⟩, -⟩ := hsame
  simp [isSame, hobject, hcv, Ty.isLvalue_iff.1 lvalue, Ty.isLvalue_iff.1 lvalue']

section Distinct

variable (distinct : T.Distinct)

include distinct

/-- An lvalue reference is spelled in one way. -/
theorem eq_of_isSame_of_isLvalue (ht : t.valid = true) (lvalue : t.isLvalue = true) (same : T.isSame t u = true) :
    t = u := by
  have hsame := same
  simp only [isSame, Bool.and_eq_true, distinct.sameObject_iff, beq_iff_eq] at hsame
  obtain ⟨hobject, -, hkind⟩ := hsame
  have hu : u.valid = true := by rwa [Ty.valid, ← hobject]
  have hreference : t.isReference = true := Ty.isReference_iff.2 (Or.inl (Ty.isLvalue_iff.1 lvalue))
  have hreference' : u.isReference = true := by rwa [Ty.isReference, ← hkind]
  apply distinct.eq_of_isSame _ _ same
  · rw [← Ty.canon_of_isReference ht hreference]
    exact Ty.canonical_canon t
  · rw [← Ty.canon_of_isReference hu hreference']
    exact Ty.canonical_canon u

/-- Expressions can be swapped exactly if they are lvalues of one type that is movable. The `const` lvalues of such
expressions have themselves for their common reference, so that clause of the concept refuses none, whatever entries the
object registers. -/
theorem swappableWith_iff (t u : Ty ι) :
    (T.swappableWith t u = true ↔
        (t.isLvalue = true ∧ T.isSame t u = true) ∧ T.movable t.removeReference = true) ∧
      (t.valid = true → t.isLvalue = true → T.isSame t u = true →
        T.commonReference t.constLvalue u.constLvalue = t.constLvalue ∧
          T.commonReferenceWith t.constLvalue u.constLvalue = true) := by
  have hconst (ht : t.valid = true) :
      T.commonReference t.constLvalue t.constLvalue = t.constLvalue ∧
        T.commonReferenceWith t.constLvalue t.constLvalue = true := by
    have hvalid : t.constLvalue.valid = true := (Ty.valid_constLvalue t).trans ht
    exact ⟨commonReference_self hvalid (isReference_constLvalue ht),
      commonReferenceWith_self hvalid (isReference_constLvalue ht)⟩
  refine ⟨⟨?_, ?_⟩, ?_⟩
  · intro h
    simp only [swappableWith, Bool.and_eq_true] at h
    obtain ⟨⟨⟨⟨hleft, hright⟩, -⟩, hforth⟩, -⟩ := h
    obtain ⟨lvalue, movable⟩ := swapExpression_self_iff.1 hleft
    have hu : u.valid = true :=
      (Ty.valid_removeReference u).symm.trans (valid_of_movable (swapExpression_self_iff.1 hright).2)
    exact ⟨⟨lvalue, isSame_of_swapExpression hforth hu⟩, movable⟩
  · rintro ⟨⟨lvalue, same⟩, movable⟩
    have ht : t.valid = true := (Ty.valid_removeReference t).symm.trans (valid_of_movable movable)
    obtain rfl := eq_of_isSame_of_isLvalue distinct ht lvalue same
    have hself : T.swapExpression t t = true := swapExpression_self_iff.2 ⟨lvalue, movable⟩
    rw [swappableWith, hself, (hconst ht).2]
    rfl
  · intro ht lvalue same
    obtain rfl := eq_of_isSame_of_isLvalue distinct ht lvalue same
    exact hconst ht

end Distinct

end Table

namespace Catalogue

/-- A class with an entry for its common reference with itself, and the same class under `const`. -/
theorem swappableWith_iff_rules :
    let t := lvalue .rules
    let u := constLvalue .rules
    (separated.Distinct ∧ t.valid = true ∧ t.isLvalue = true ∧ separated.isSame t t = true) ∧
      separated.commonReferenceEntry t.constLvalue t.constLvalue = constLvalue .joint ∧
      separated.commonReference t.constLvalue t.constLvalue = constLvalue .rules ∧
      separated.commonReferenceWith t.constLvalue t.constLvalue = true ∧
      separated.swappableWith t t = true ∧ separated.swappableWith t u = false := by
  intro t u
  have lvalue : t.isLvalue = true := by decide
  have differ : ¬ separated.isSame t u = true := by decide
  have movable : separated.movable t.removeReference = true := by decide
  obtain ⟨hswap, hconst⟩ := Table.swappableWith_iff separated_distinct t t
  obtain ⟨hreference, hwith⟩ := hconst rfl lvalue (separated.isSame_self t)
  refine ⟨⟨separated_distinct, rfl, lvalue, separated.isSame_self t⟩, by decide, hreference, hwith, ?_, ?_⟩
  · exact hswap.2 ⟨⟨lvalue, separated.isSame_self t⟩, movable⟩
  · rw [← Bool.not_eq_true]
    intro h
    exact differ ((Table.swappableWith_iff separated_distinct t u).1.1 h).1.2

end Catalogue

end Concord
