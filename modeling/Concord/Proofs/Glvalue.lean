import Concord.Catalogue.Numbered
import Concord.Proofs.Joins

/-!
# Glvalues of the conditional operator

A glvalue that the conditional operator answers is one of its operands, and the other operand binds to it directly. Where
two objects of which one is a class meet, the operator answers if one of the two ways to convert is open and the other
is not: an operand that was converted always matches, and operands of which none was converted never do.
-/

namespace Concord

namespace Table

variable {ι : Type} {T : Table ι} {t u : Ty ι}

theorem refCompatible_of_bindsDirectly (binds : T.bindsDirectly t u = true) : T.refCompatible t u = true := by
  simp only [bindsDirectly, Bool.and_eq_true] at binds
  exact binds.1

/-- Only an lvalue binds directly to an lvalue reference. -/
theorem isLvalue_of_bindsDirectly (binds : T.bindsDirectly t u = true) (hu : u.isLvalue = true) :
    t.isLvalue = true := by
  simp only [bindsDirectly, Bool.and_eq_true, Bool.or_eq_true] at binds
  rcases binds.2 with ⟨-, lvalue⟩ | ⟨xvalue, -⟩
  · exact lvalue
  · rw [Ty.isXvalue, Ty.isLvalue_iff.1 hu] at xvalue
    contradiction

/-- No lvalue binds directly to an rvalue reference, and of values only those of classes do. -/
theorem category_of_bindsDirectly (binds : T.bindsDirectly t u = true) (hu : u.isXvalue = true) :
    t.isLvalue = false ∧ (t.isReference = false → T.isClass t.object = true) := by
  simp only [bindsDirectly, Bool.and_eq_true, Bool.or_eq_true] at binds
  rcases binds.2 with ⟨lvalue, -⟩ | ⟨-, xvalue | ⟨value, hclass⟩⟩
  · rw [Ty.isLvalue, Ty.isXvalue_iff.1 hu] at lvalue
    contradiction
  · simp [Ty.isLvalue, Ty.isReference, Ty.isXvalue_iff.1 xvalue, RefKind.isReference]
  · have hkind : t.kind = .none := by simpa [Ty.isPrvalue] using value
    exact ⟨by simp [Ty.isLvalue, hkind], fun _ => hclass⟩

section Distinct

variable (distinct : T.Distinct)

include distinct

/-- A glvalue that the operator answers is one operand, to which the other binds directly. -/
theorem bindsDirectly_of_isReference_conditional (reference : (T.conditional t u).isReference = true) :
    (T.conditional t u = u ∧ T.bindsDirectly t u = true) ∨
      (T.conditional t u = t ∧ T.bindsDirectly u t = true) := by
  have valid : (T.conditional t u).valid = true := by
    rw [← Bool.not_eq_false]
    intro invalid
    rw [(canonical_conditional t u).eq_nonesuch invalid] at reference
    contradiction
  obtain ⟨ht, hu⟩ := T.valid_of_conditional valid
  rcases conditional_meets distinct valid with meets | meets
  · obtain ⟨binds, hr⟩ := meets.bindsDirectly distinct reference
    rw [hr, Ty.canon_of_isReference hu (isReference_of_bindsDirectly binds)]
    exact Or.inl ⟨rfl, binds⟩
  · obtain ⟨binds, hr⟩ := meets.bindsDirectly distinct reference
    rw [hr, Ty.canon_of_isReference ht (isReference_of_bindsDirectly binds)]
    exact Or.inr ⟨rfl, binds⟩

/-- Where a class meets another object, the operator answers if exactly one of the operands converts. -/
theorem valid_conditional_of_anyClass (ht : t.valid = true) (hu : u.valid = true) (differ : t.object ≠ u.object)
    (hclass : T.anyClass t u = true) : (T.conditional t u).valid = (T.converts t u ^^ T.converts u t) := by
  have needs := needsConversion_of_anyClass distinct differ hclass
  cases hto : T.converts t u with
  | true =>
      cases hback : T.converts u t with
      | true =>
          have hambiguous : T.conditional t u = .nonesuch := by
            simp [conditional, ht, hu, needs, convertOne, hto, hback]
          rw [hambiguous]
          rfl
      | false =>
          rw [conditional_eq_convertedTo ht hu needs hto hback, Ty.valid, object_convertedTo]
          exact hu
  | false =>
      cases hback : T.converts u t with
      | true =>
          rw [conditional_comm distinct,
            conditional_eq_convertedTo hu ht (needsConversion_comm distinct t u ▸ needs) hback hto, Ty.valid,
            object_convertedTo]
          exact ht
      | false =>
          rw [conditional_eq_finish ht hu hto hback, finish_eq_nonesuch (distinct.sameObject_eq_false differ) hclass]
          rfl

/-- A reference that the operator answers is one of its operands, and the other is compatible with it. An lvalue comes
from two lvalues, an xvalue from no lvalue and from no value of a number. For different objects of which one is a class,
there is an answer exactly where one operand converts and the other does not. -/
theorem conditional_glvalue (t u : Ty ι) (ht : t.valid = true) (hu : u.valid = true) :
    ((T.conditional t u).isReference = true →
        ((T.isSame (T.conditional t u) t = true ∧ T.refCompatible u (T.conditional t u) = true) ∨
          (T.isSame (T.conditional t u) u = true ∧ T.refCompatible t (T.conditional t u) = true)) ∧
        ((T.conditional t u).isLvalue = true → t.isLvalue = true ∧ u.isLvalue = true) ∧
        ((T.conditional t u).isXvalue = true →
          (t.isLvalue = false ∧ u.isLvalue = false) ∧
            (t.isReference = false → T.isClass t.object = true) ∧
            (u.isReference = false → T.isClass u.object = true))) ∧
      (t.object ≠ u.object → T.anyClass t u = true →
        (T.conditional t u).valid = (T.converts t u ^^ T.converts u t)) := by
  refine ⟨?_, valid_conditional_of_anyClass distinct ht hu⟩
  intro reference
  have hxvalue {r : Ty ι} (h : r.isXvalue = true) : r.isLvalue = false ∧ r.isReference = true := by
    simp [Ty.isLvalue, Ty.isReference, Ty.isXvalue_iff.1 h, RefKind.isReference]
  rcases bindsDirectly_of_isReference_conditional distinct reference with ⟨hr, binds⟩ | ⟨hr, binds⟩
  · rw [hr]
    refine ⟨Or.inr ⟨T.isSame_self u, refCompatible_of_bindsDirectly binds⟩, ?_, ?_⟩
    · intro lvalue
      exact ⟨isLvalue_of_bindsDirectly binds lvalue, lvalue⟩
    · intro xvalue
      obtain ⟨hlvalue, hvalue⟩ := category_of_bindsDirectly binds xvalue
      exact ⟨⟨hlvalue, (hxvalue xvalue).1⟩, hvalue, by simp [(hxvalue xvalue).2]⟩
  · rw [hr]
    refine ⟨Or.inl ⟨T.isSame_self t, refCompatible_of_bindsDirectly binds⟩, ?_, ?_⟩
    · intro lvalue
      exact ⟨lvalue, isLvalue_of_bindsDirectly binds lvalue⟩
    · intro xvalue
      obtain ⟨hlvalue, hvalue⟩ := category_of_bindsDirectly binds xvalue
      exact ⟨⟨(hxvalue xvalue).1, hlvalue⟩, by simp [(hxvalue xvalue).2], hvalue⟩

end Distinct

end Table

namespace Catalogue

/-- The value of a class and an xvalue of its base are an xvalue of the base. Two classes that convert to each other
have no answer, and where only one of them converts there is one. -/
theorem conditional_glvalue_child_parent :
    let t := value .child
    let u := (value .parent).rvalue
    (separated.Distinct ∧ t.valid = true ∧ u.valid = true) ∧ separated.conditional t u = u ∧
      separated.refCompatible t u = true ∧ (t.isLvalue = false ∧ u.isLvalue = false) ∧
      separated.isClass t.object = true ∧
      (separated.converts (value .ping) (value .pong) = true ∧ separated.converts (value .pong) (value .ping) = true) ∧
      (separated.conditional (value .ping) (value .pong)).valid = false ∧
      (separated.conditional (value .toChild) (value .parent)).valid = true := by
  intro t u
  have hanswer : separated.conditional t u = u := by decide
  obtain ⟨hglvalue, -⟩ := Table.conditional_glvalue separated_distinct t u (by decide) (by decide)
  rw [hanswer] at hglvalue
  obtain ⟨hsame, -, hxvalue⟩ := hglvalue (by decide)
  obtain ⟨categories, hclass, -⟩ := hxvalue (by decide)
  have hcompatible : separated.refCompatible t u = true := by
    rcases hsame with ⟨same, -⟩ | ⟨-, compatible⟩
    · exact absurd same (by decide)
    · exact compatible
  have hping : separated.converts (value .ping) (value .pong) = true := by decide
  have hpong : separated.converts (value .pong) (value .ping) = true := by decide
  obtain ⟨-, hboth⟩ := Table.conditional_glvalue separated_distinct (value .ping) (value .pong) (by decide) (by decide)
  obtain ⟨-, hone⟩ :=
    Table.conditional_glvalue separated_distinct (value .toChild) (value .parent) (by decide) (by decide)
  refine ⟨⟨separated_distinct, by decide, by decide⟩, hanswer, hcompatible, categories, hclass (by decide),
    ⟨hping, hpong⟩, ?_, ?_⟩
  · rw [hboth (by decide) (by decide), hping, hpong]
    rfl
  · rw [hone (by decide) (by decide)]
    decide

end Catalogue

end Concord
