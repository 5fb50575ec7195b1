import Concord.Catalogue.Numbered
import Concord.Pack
import Concord.Proofs.Canonical
import Concord.Proofs.CommonReference
import Mathlib.Data.List.Basic

/-!
# Packs resolve from the left

Packs of one type are resolved by a rule of their own, which is not the same for common types and common references. From
two types on both are left folds of the answer for two types. A type that is invalid, however it is spelled, and a part
of the pack without an answer leave the sentinel behind, and nothing that follows turns the sentinel into an answer.
-/

namespace Concord

variable {ι : Type}

/-- `fold` resolves packs of two or more types from the left by `join`, which answers in the canonical spelling and only
where both operands are valid. -/
structure LeftFold (join : Ty ι → Ty ι → Ty ι) (fold : Pack ι → Ty ι) : Prop where
  fold_cons : ∀ (t : Ty ι) (p : Pack ι), p ≠ [] → fold (t :: p) = p.foldl join t
  canonical : ∀ t u, (join t u).Canonical
  strict : ∀ {t u}, (join t u).valid = true → t.valid = true ∧ u.valid = true

namespace LeftFold

variable {join : Ty ι → Ty ι → Ty ι} {fold : Pack ι → Ty ι} (left : LeftFold join fold)

include left

/-- One step: an operand that is invalid leaves the sentinel itself. -/
theorem join_eq_nonesuch {t u : Ty ι} (h : t.valid = false ∨ u.valid = false) : join t u = .nonesuch := by
  apply (left.canonical t u).eq_nonesuch
  rw [← Bool.not_eq_true]
  intro valid
  obtain ⟨ht, hu⟩ := left.strict valid
  simp [ht, hu] at h

/-- The sentinel stays the answer. -/
theorem foldl_nonesuch (p : Pack ι) : p.foldl join .nonesuch = .nonesuch := by
  induction p with
  | nil => rfl
  | cons u p ih =>
      rw [List.foldl_cons, left.join_eq_nonesuch (Or.inl Ty.valid_nonesuch)]
      exact ih

/-- An invalid type leaves the sentinel when it is joined with another one, be it the first type or a later one. -/
theorem foldl_eq_nonesuch {p : Pack ι} {r : Ty ι} (nonempty : p ≠ []) (h : ∃ t ∈ r :: p, t.valid = false) :
    p.foldl join r = .nonesuch := by
  induction p generalizing r with
  | nil => contradiction
  | cons u p ih =>
      rw [List.foldl_cons]
      obtain ⟨t, mem, invalid⟩ := h
      rcases List.mem_cons.1 mem with rfl | mem
      · rw [left.join_eq_nonesuch (Or.inl invalid)]
        exact left.foldl_nonesuch p
      · rcases List.mem_cons.1 mem with rfl | mem
        · rw [left.join_eq_nonesuch (Or.inr invalid)]
          exact left.foldl_nonesuch p
        · exact ih (List.ne_nil_of_mem mem) ⟨t, List.mem_cons_of_mem _ mem, invalid⟩

theorem fold_eq_nonesuch {p : Pack ι} (long : 2 ≤ p.length) (h : ∃ t ∈ p, t.valid = false) :
    fold p = .nonesuch := by
  cases p with
  | nil => contradiction
  | cons t p =>
      have nonempty : p ≠ [] := by
        rintro rfl
        contradiction
      rw [left.fold_cons t p nonempty]
      exact left.foldl_eq_nonesuch nonempty h

/-- The answer so far takes the place of the types that it is the answer for. -/
theorem fold_append {p q : Pack ι} (long : 2 ≤ p.length) (nonempty : q ≠ []) :
    fold (p ++ q) = fold (fold p :: q) := by
  cases p with
  | nil => contradiction
  | cons t p =>
      have hp : p ≠ [] := by
        rintro rfl
        contradiction
      calc
        fold (t :: (p ++ q)) = (p ++ q).foldl join t := left.fold_cons t _ (by simp [hp])
        _ = q.foldl join (p.foldl join t) := List.foldl_append
        _ = q.foldl join (fold (t :: p)) := by rw [left.fold_cons t p hp]
        _ = fold (fold (t :: p) :: q) := (left.fold_cons _ q nonempty).symm

theorem canonical_fold {p : Pack ι} (long : 2 ≤ p.length) : (fold p).Canonical := by
  -- The last step alone decides the spelling.
  rcases List.eq_nil_or_concat' p with rfl | ⟨q, u, rfl⟩
  · contradiction
  · cases q with
    | nil => contradiction
    | cons t q =>
        rw [List.cons_append, left.fold_cons t _ (by simp), List.foldl_append]
        exact left.canonical _ u

/-- A part of two or more types at the front of a pack that has no answer leaves none for the pack. -/
theorem fold_eq_nonesuch_of_prefix {p q : Pack ι} (front : q <+: p) (long : 2 ≤ q.length)
    (invalid : (fold q).valid = false) : fold p = .nonesuch := by
  obtain ⟨rest, rfl⟩ := front
  by_cases hrest : rest = []
  · rw [hrest, List.append_nil]
    exact (left.canonical_fold long).eq_nonesuch invalid
  · rw [left.fold_append long hrest]
    apply left.fold_eq_nonesuch
    · rw [List.length_cons]
      have := List.length_pos_iff.2 hrest
      omega
    · exact ⟨fold q, List.mem_cons_self, invalid⟩

end LeftFold

namespace Table

variable (T : Table ι)

theorem leftFold_commonTypeOf : LeftFold T.commonType T.commonTypeOf where
  fold_cons t _ nonempty := T.commonTypeOf_cons t nonempty
  canonical := canonical_commonType
  strict := valid_of_commonType

theorem leftFold_commonReferenceOf : LeftFold T.commonReference T.commonReferenceOf where
  fold_cons t p _ := T.commonReferenceOf_cons t p
  canonical := canonical_commonReference
  strict := valid_of_commonReference

/-- The answer for two or more types at the front of a pack takes their place in it. If they have none, or if one of two
or more types is invalid, the answer is the sentinel, whatever follows and whatever entries there are. -/
theorem resolution_leftFold :
    (∀ p q : Pack ι, 2 ≤ p.length → q ≠ [] →
        T.commonTypeOf (p ++ q) = T.commonTypeOf (T.commonTypeOf p :: q) ∧
          T.commonReferenceOf (p ++ q) = T.commonReferenceOf (T.commonReferenceOf p :: q)) ∧
      (∀ p q : Pack ι, q <+: p → 2 ≤ q.length →
        ((T.commonTypeOf q).valid = false → T.commonTypeOf p = .nonesuch) ∧
          ((T.commonReferenceOf q).valid = false → T.commonReferenceOf p = .nonesuch)) ∧
      ∀ p : Pack ι, 2 ≤ p.length → (∃ t ∈ p, t.valid = false) →
        T.commonTypeOf p = .nonesuch ∧ T.commonReferenceOf p = .nonesuch := by
  have types := T.leftFold_commonTypeOf
  have references := T.leftFold_commonReferenceOf
  refine ⟨?_, ?_, ?_⟩
  · intro p q long nonempty
    exact ⟨types.fold_append long nonempty, references.fold_append long nonempty⟩
  · intro p q front long
    exact ⟨types.fold_eq_nonesuch_of_prefix front long, references.fold_eq_nonesuch_of_prefix front long⟩
  · intro p long invalid
    exact ⟨types.fold_eq_nonesuch long invalid, references.fold_eq_nonesuch long invalid⟩

end Table

namespace Catalogue

/-- Of two objects only one has an entry for the other, and the two orders of them are followed by the type of that
entry. A sentinel with a decoration stands before a type with an entry for its neighbour. -/
theorem resolution_leftFold_oneWay :
    let p := [value .oneWayA, value .oneWayB]
    let q := [value .oneWayB, value .oneWayA]
    let r := [value .oneWayA, .qualified .nonesuch .const .lvalue, value .oneWayB]
    (2 ≤ p.length ∧ 2 ≤ q.length ∧ [value .z] ≠ [] ∧ q <+: q ++ [value .z]) ∧
      separated.commonTypeOf (p ++ [value .z]) = separated.commonTypeOf (separated.commonTypeOf p :: [value .z]) ∧
      separated.commonTypeOf (p ++ [value .z]) = value .z ∧
      (separated.commonTypeOf q).valid = false ∧ separated.commonTypeOf (q ++ [value .z]) = .nonesuch ∧
      (2 ≤ r.length ∧ ∃ t ∈ r, t.valid = false) ∧ separated.commonReferenceOf r = .nonesuch := by
  intro p q r
  obtain ⟨happend, hfront, hinvalid⟩ := Table.resolution_leftFold separated
  have front : q <+: q ++ [value .z] := List.prefix_append q _
  have invalid : (separated.commonTypeOf q).valid = false := by decide
  have mem : ∃ t ∈ r, t.valid = false := by decide
  refine ⟨⟨by decide, by decide, by decide, front⟩, ?_, by decide, invalid, ?_, ⟨by decide, mem⟩, ?_⟩
  · exact (happend p [value .z] (by decide) (by decide)).1
  · exact (hfront _ q front (by decide)).1 invalid
  · exact (hinvalid r (by decide) mem).2

end Catalogue

end Concord
