import Concord.Proofs.CommonTypeTiers
import Concord.Proofs.SimpleReference
import Mathlib.Tactic.ByContra

/-!
# Answers without an entry

Where no entry answers for an ordered pair, its common reference is the first valid answer of the simple rules, the
conditional operator and the common type, and its common type has no decoration.
-/

namespace Concord

namespace Table

variable {ι : Type} (T : Table ι)

/-- No entry of the first operand's object gives a valid answer for the second. -/
structure Unspecialized (t u : Ty ι) : Prop where
  reference : (T.commonReferenceEntry t u).valid = false
  type : (T.commonTypeEntry t.decay u.decay).valid = false

/-- No object registers an entry. -/
structure EntryFree : Prop where
  types : ∀ o, T.commonTypes o = []
  references : ∀ o, T.commonReferences o = []

variable {T} {t u : Ty ι}

theorem valid_commonTypeEntry_of_nil (h : T.commonTypes t.object = []) :
    (T.commonTypeEntry t.decay u.decay).valid = false := by
  simp [commonTypeEntry, entry?, h]

theorem EntryFree.unspecialized (free : T.EntryFree) (t u : Ty ι) : T.Unspecialized t u where
  reference := by simp [commonReferenceEntry, entry?, free.references]
  type := valid_commonTypeEntry_of_nil (free.types _)

theorem valid_of_commonReference_ne (h : T.commonReference t u ≠ .nonesuch) :
    t.valid = true ∧ u.valid = true := by
  constructor
  · by_contra ht
    exact h (T.commonReference_of_invalid_left (by simpa using ht))
  · by_contra hu
    exact h (T.commonReference_of_invalid_right (by simpa using hu))

theorem valid_of_commonReference (valid : (T.commonReference t u).valid = true) :
    t.valid = true ∧ u.valid = true := by
  apply valid_of_commonReference_ne (T := T)
  intro h
  rw [h] at valid
  contradiction

theorem valid_of_isReference_commonReference (reference : (T.commonReference t u).isReference = true) :
    t.valid = true ∧ u.valid = true := by
  apply valid_of_commonReference_ne (T := T)
  intro h
  rw [h] at reference
  contradiction

theorem valid_of_commonType (valid : (T.commonType t u).valid = true) : t.valid = true ∧ u.valid = true := by
  constructor
  · by_contra ht
    rw [T.commonType_of_invalid_left (by simpa using ht)] at valid
    contradiction
  · by_contra hu
    rw [T.commonType_of_invalid_right (by simpa using hu)] at valid
    contradiction

/-- The simple rules come before every entry. -/
theorem commonReference_of_simpleReference (ht : t.valid = true) (hu : u.valid = true)
    (valid : (T.simpleReference t u).valid = true) : T.commonReference t u = T.simpleReference t u := by
  simp only [commonReference, ht, hu, Bool.and_self, if_true]
  exact Ty.orElse_of_valid valid _

/-- Where the simple rules have no answer and there is no entry, the conditional operator comes before the common
type. -/
theorem commonReference_of_invalid_simpleReference (unspecialized : T.Unspecialized t u) (ht : t.valid = true)
    (hu : u.valid = true) (invalid : (T.simpleReference t u).valid = false) :
    T.commonReference t u = (T.conditional t u).orElse fun _ => T.commonType t u := by
  simp only [commonReference, ht, hu, Bool.and_self, if_true]
  rw [Ty.orElse_of_invalid invalid, Ty.orElse_of_invalid unspecialized.reference]

/-- Without an entry the common reference is the first valid answer of three rules, or the last answer. -/
theorem commonReference_cases (unspecialized : T.Unspecialized t u) (ht : t.valid = true) (hu : u.valid = true) :
    ((T.simpleReference t u).valid = true ∧ T.commonReference t u = T.simpleReference t u) ∨
      ((T.conditional t u).valid = true ∧ T.commonReference t u = T.conditional t u) ∨
      T.commonReference t u = T.commonType t u := by
  cases hsimple : (T.simpleReference t u).valid with
  | true => exact Or.inl ⟨rfl, commonReference_of_simpleReference ht hu hsimple⟩
  | false =>
      right
      rw [commonReference_of_invalid_simpleReference unspecialized ht hu hsimple]
      cases hconditional : (T.conditional t u).valid with
      | true => exact Or.inl ⟨rfl, Ty.orElse_of_valid hconditional _⟩
      | false => exact Or.inr (Ty.orElse_of_invalid hconditional _)

/-- A common type without an entry has no decoration. -/
theorem commonType_eq_plain (unregistered : (T.commonTypeEntry t.decay u.decay).valid = false) :
    T.commonType t u = .plain (T.commonType t u).object := by
  unfold commonType
  dsimp only
  split
  · rw [Ty.orElse_of_invalid unregistered, Ty.orElse]
    split
    · rfl
    · rfl
  · rfl

theorem decay_commonType (unspecialized : T.Unspecialized t u) : (T.commonType t u).decay = T.commonType t u :=
  (commonType_eq_plain unspecialized.type).symm

/-- Neither operand is volatile, so neither is their common reference. -/
theorem isVolatile_commonReference (distinct : T.Distinct) (unspecialized : T.Unspecialized t u)
    (ht : t.cv.isVolatile = false) (hu : u.cv.isVolatile = false) :
    (T.commonReference t u).cv.isVolatile = false := by
  by_cases hne : T.commonReference t u = .nonesuch
  · rw [hne]
    rfl
  · obtain ⟨hvt, hvu⟩ := valid_of_commonReference_ne hne
    rcases commonReference_cases unspecialized hvt hvu with ⟨valid, h⟩ | ⟨valid, h⟩ | h
    · rw [h]
      rcases simpleReference_simple valid with simple | simple
      · exact simple.isVolatile distinct hvt hvu ht hu
      · exact simple.isVolatile distinct hvu hvt hu ht
    · rw [h]
      rcases conditional_meets distinct valid with meets | meets
      · exact meets.isVolatile ht hu
      · exact meets.isVolatile hu ht
    · rw [h, ← decay_commonType unspecialized]
      rfl

theorem isReference_commonType (unspecialized : T.Unspecialized t u) : (T.commonType t u).isReference = false := by
  rw [← decay_commonType unspecialized]
  rfl

end Table

end Concord
