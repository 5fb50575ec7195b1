import Concord.Concept.Callable
import Concord.Identity.Encoding
import Concord.Proofs.Sameness

/-!
# Concepts hold of valid types only

The sentinel is the same as itself and converts to itself by a standard conversion, and two failures have the same
common type. Still no concept but sameness holds of an invalid type in any place: each of them asks somewhere for a
conversion, a call, a comparison or a kind, and none of these exists for the sentinel. Where one type is only compared
with another, it is told from the sentinel by the chunks of its identity.
-/

namespace Concord

namespace Table

variable {ι : Type}

/-- Every registered object has an identity of as many chunks as a text has. -/
def Chunked (T : Table ι) : Prop := ∀ i, List.length (T.registration i).identity = Identity.textChunks

/-- The concepts on one type. -/
def typeConcepts (T : Table ι) : List (Ty ι → Bool) :=
  [T.integral, T.signedIntegral, T.unsignedIntegral, destructible, T.defaultConstructible, T.moveConstructible,
    T.copyConstructible, T.swappable, T.movable, T.copyable, T.semiregular, T.regular, T.boolean,
    T.equalityComparable, T.strictTotallyOrdered]

/-- The concepts on two types, other than that they are the same, with the relations they come from. -/
def pairConcepts (T : Table ι) : List (Ty ι → Ty ι → Bool) :=
  [T.isBaseOf, T.convertible, T.derivedFrom, T.convertibleTo, T.commonReferenceWith, T.commonWith, T.assignable,
    T.swapExpression, T.swappableWith, T.weaklyEqualityComparableWith, T.equalityComparableWith,
    T.strictTotallyOrderedWith]

/-- The concepts on a type and a pack. -/
def packConcepts (T : Table ι) : List (Ty ι → Pack ι → Bool) :=
  [T.constructible, T.invocable, T.regularInvocable, T.predicate]

/-- The concepts on a callee and two types. -/
def relationConcepts (T : Table ι) : List (Ty ι → Ty ι → Ty ι → Bool) := [T.relation, T.strictWeakOrder]

variable {T : Table ι} {t u b d left right callee : Ty ι} {p : Pack ι}

theorem valid_of_integral (h : T.integral t = true) : t.valid = true := by
  simp only [integral, Bool.and_eq_true] at h
  exact T.valid_of_isIntegral h.1

theorem valid_of_signedIntegral (h : T.signedIntegral t = true) : t.valid = true := by
  simp only [signedIntegral, Bool.and_eq_true] at h
  exact valid_of_integral h.1

theorem valid_of_unsignedIntegral (h : T.unsignedIntegral t = true) : t.valid = true := by
  simp only [unsignedIntegral, Bool.and_eq_true] at h
  exact valid_of_integral h.1

theorem valid_of_isBaseOf (h : T.isBaseOf b d = true) : b.valid = true ∧ d.valid = true := by
  simp only [isBaseOf, Bool.and_eq_true] at h
  obtain ⟨⟨⟨hb, hd⟩, -⟩, -⟩ := h
  exact ⟨T.valid_of_isClass hb, T.valid_of_isClass hd⟩

theorem valid_of_commonReferenceWith (h : T.commonReferenceWith t u = true) : t.valid = true ∧ u.valid = true := by
  simp only [commonReferenceWith, Bool.and_eq_true] at h
  obtain ⟨⟨-, ht⟩, hu⟩ := h
  exact ⟨(valid_of_convertible ht).1, (valid_of_convertible hu).1⟩

theorem valid_of_commonWith (h : T.commonWith t u = true) : t.valid = true ∧ u.valid = true := by
  simp only [commonWith, Bool.and_eq_true] at h
  obtain ⟨⟨⟨⟨-, ht⟩, hu⟩, -⟩, -⟩ := h
  exact ⟨(valid_of_convertible ht).1, (valid_of_convertible hu).1⟩

theorem valid_of_constructible (h : T.constructible t p = true) : ∀ u ∈ t :: p, u.valid = true := by
  simp only [constructible, Bool.and_eq_true] at h
  obtain ⟨ht, initializable⟩ := h
  match p with
  | [] => exact List.forall_mem_singleton.2 ht
  | [u] =>
    have hu : T.convertible u t = true := by simpa using initializable
    simp [(valid_of_convertible hu).1, (valid_of_convertible hu).2]
  | u :: v :: p => simp at initializable

theorem valid_of_moveConstructible (h : T.moveConstructible t = true) : t.valid = true := by
  simp only [moveConstructible, Bool.and_eq_true] at h
  exact (valid_of_convertible h.2).1

theorem valid_of_copyConstructible (h : T.copyConstructible t = true) : t.valid = true := by
  simp only [copyConstructible, Bool.and_eq_true] at h
  exact valid_of_moveConstructible h.1

theorem valid_of_assignable (h : T.assignable left right = true) : left.valid = true ∧ right.valid = true := by
  simp only [assignable, Bool.and_eq_true] at h
  obtain ⟨⟨-, common⟩, -⟩ := h
  simpa using valid_of_commonReferenceWith common

theorem valid_of_swappable (h : T.swappable t = true) : t.valid = true := by
  simp only [swappable, Bool.and_eq_true] at h
  simpa using valid_of_moveConstructible h.1

theorem valid_of_movable (h : T.movable t = true) : t.valid = true := by
  simp only [movable, Bool.and_eq_true] at h
  exact h.1.1.1.1

theorem valid_of_copyable (h : T.copyable t = true) : t.valid = true := by
  simp only [copyable, Bool.and_eq_true] at h
  exact valid_of_copyConstructible h.1.1

theorem valid_of_semiregular (h : T.semiregular t = true) : t.valid = true := by
  simp only [semiregular, Bool.and_eq_true] at h
  exact valid_of_copyable h.1

theorem valid_of_regular (h : T.regular t = true) : t.valid = true := by
  simp only [regular, Bool.and_eq_true] at h
  exact valid_of_semiregular h.1

namespace Chunked

variable (chunked : T.Chunked)

include chunked

/-- An object with an identity is not taken for the sentinel, whose identity has no chunks. -/
theorem sameObject_nonesuch (i : ι) : T.sameObject (.registered i) .nonesuch = false := by
  have some : T.identity (.registered i) ≠ .done := by
    intro none
    have length := chunked i
    rw [show (T.registration i).identity = .done from none] at length
    contradiction
  exact (T.sameObject_nonesuch_eq_false some).1

theorem valid_of_isSame (ht : t.valid = true) (h : T.isSame t u = true) : u.valid = true := by
  simp only [isSame, Bool.and_eq_true] at h
  rw [Ty.valid] at ht ⊢
  cases htobject : t.object with
  | nonesuch => simp [htobject] at ht
  | registered i =>
    cases huobject : u.object with
    | nonesuch => simp [htobject, huobject, chunked.sameObject_nonesuch] at h
    | registered j => rfl

/-- The second type is asked for nothing but to be the same as the first. -/
theorem valid_of_swapExpression (h : T.swapExpression t u = true) : t.valid = true ∧ u.valid = true := by
  simp only [swapExpression, same, Bool.and_eq_true] at h
  obtain ⟨⟨-, ⟨same, -⟩⟩, swap⟩ := h
  have ht : t.removeReference.valid = true := by simpa using valid_of_swappable swap
  have hu := chunked.valid_of_isSame ht same
  exact ⟨by simpa using ht, by simpa using hu⟩

theorem valid_of_swappableWith (h : T.swappableWith t u = true) : t.valid = true ∧ u.valid = true := by
  simp only [swappableWith, Bool.and_eq_true] at h
  obtain ⟨⟨-, swap⟩, -⟩ := h
  exact chunked.valid_of_swapExpression swap

theorem valid_of_isDetectedExact {op : Operation} (h : T.isDetectedExact t op p = true) : t.valid = true := by
  simp only [isDetectedExact, Bool.and_eq_true] at h
  exact chunked.valid_of_isSame h.1 h.2

end Chunked

theorem valid_of_hasOperator {operands : Object ι → List (Object ι)} (h : T.hasOperator operands t u = true) :
    t.valid = true ∧ u.valid = true := by
  simp only [hasOperator, Bool.and_eq_true] at h
  exact h.1

theorem valid_of_weaklyEqualityComparableWith (h : T.weaklyEqualityComparableWith t u = true) :
    t.valid = true ∧ u.valid = true := by
  simp only [weaklyEqualityComparableWith, Bool.and_eq_true] at h
  exact valid_of_hasOperator h.1

theorem valid_of_equalityComparable (h : T.equalityComparable t = true) : t.valid = true :=
  (valid_of_weaklyEqualityComparableWith h).1

theorem valid_of_equalityComparableWith (h : T.equalityComparableWith t u = true) :
    t.valid = true ∧ u.valid = true := by
  simp only [equalityComparableWith, Bool.and_eq_true] at h
  exact valid_of_weaklyEqualityComparableWith h.2

theorem valid_of_strictTotallyOrdered (h : T.strictTotallyOrdered t = true) : t.valid = true := by
  simp only [strictTotallyOrdered, Bool.and_eq_true] at h
  exact valid_of_equalityComparable h.1

theorem valid_of_strictTotallyOrderedWith (h : T.strictTotallyOrderedWith t u = true) :
    t.valid = true ∧ u.valid = true := by
  simp only [strictTotallyOrderedWith, Bool.and_eq_true] at h
  exact (valid_of_hasOperator h.2).symm

theorem valid_of_boolean (h : T.boolean t = true) : t.valid = true := by
  simp only [boolean, Bool.and_eq_true] at h
  exact (valid_of_hasOperator h.2).2

/-- Every argument converts to its parameter, and there are as many of both. -/
theorem valid_of_accepts {parameters : List (Ty ι)} (h : T.accepts parameters p = true) : ∀ u ∈ p, u.valid = true := by
  induction parameters generalizing p with
  | nil =>
    rw [accepts_nil, List.isEmpty_iff] at h
    simp [h]
  | cons parameter parameters ih =>
    cases p with
    | nil => simp
    | cons a p =>
      rw [accepts_cons_cons, Bool.and_eq_true] at h
      exact List.forall_mem_cons.2 ⟨(valid_of_convertible h.1).1, ih h.2⟩

/-- The sentinel has no signatures. -/
theorem valid_of_invocable (h : T.invocable callee p = true) : ∀ u ∈ callee :: p, u.valid = true := by
  unfold invocable invokeResult at h
  cases found : (T.calls callee.object).find? (T.accepts ·.parameters p) with
  | none => simp [found] at h
  | some signature =>
    have accepted := List.find?_some found
    refine List.forall_mem_cons.2 ⟨?_, valid_of_accepts accepted⟩
    rw [Ty.valid]
    cases hobject : callee.object with
    | nonesuch => simp [hobject, calls, field] at found
    | registered _ => rfl

theorem valid_of_predicate (h : T.predicate callee p = true) : ∀ u ∈ callee :: p, u.valid = true := by
  simp only [predicate, regularInvocable, Bool.and_eq_true] at h
  exact valid_of_invocable h.1

theorem valid_of_relation (h : T.relation callee t u = true) : ∀ v ∈ [callee, t, u], v.valid = true := by
  simp only [relation, Bool.and_eq_true] at h
  obtain ⟨⟨-, forward⟩, -⟩ := h
  exact valid_of_predicate forward

theorem valid_of_typeConcepts : ∀ concept ∈ T.typeConcepts, ∀ t, concept t = true → t.valid = true := by
  simp only [typeConcepts, List.forall_mem_cons, List.not_mem_nil, false_implies, implies_true, and_true]
  exact ⟨fun _ => valid_of_integral, fun _ => valid_of_signedIntegral, fun _ => valid_of_unsignedIntegral,
    fun _ h => h, fun t h => valid_of_constructible h t List.mem_cons_self, fun _ => valid_of_moveConstructible,
    fun _ => valid_of_copyConstructible, fun _ => valid_of_swappable, fun _ => valid_of_movable,
    fun _ => valid_of_copyable, fun _ => valid_of_semiregular, fun _ => valid_of_regular, fun _ => valid_of_boolean,
    fun _ => valid_of_equalityComparable, fun _ => valid_of_strictTotallyOrdered⟩

theorem Chunked.valid_of_pairConcepts (chunked : T.Chunked) :
    ∀ concept ∈ T.pairConcepts, ∀ t u, concept t u = true → t.valid = true ∧ u.valid = true := by
  simp only [pairConcepts, List.forall_mem_cons, List.not_mem_nil, false_implies, implies_true, and_true]
  exact ⟨fun _ _ => valid_of_isBaseOf, fun _ _ => valid_of_convertible, fun _ _ h => (valid_of_isBaseOf h).symm,
    fun _ _ => valid_of_convertible, fun _ _ => valid_of_commonReferenceWith, fun _ _ => valid_of_commonWith,
    fun _ _ => valid_of_assignable, fun _ _ => chunked.valid_of_swapExpression,
    fun _ _ => chunked.valid_of_swappableWith, fun _ _ => valid_of_weaklyEqualityComparableWith,
    fun _ _ => valid_of_equalityComparableWith, fun _ _ => valid_of_strictTotallyOrderedWith⟩

theorem valid_of_packConcepts :
    ∀ concept ∈ T.packConcepts, ∀ t p, concept t p = true → ∀ u ∈ t :: p, u.valid = true := by
  intro concept mem t p h
  simp only [packConcepts, List.mem_cons, List.not_mem_nil, or_false] at mem
  rcases mem with rfl | rfl | rfl | rfl
  · exact valid_of_constructible h
  · exact valid_of_invocable h
  · exact valid_of_invocable h
  · exact valid_of_predicate h

theorem valid_of_relationConcepts :
    ∀ concept ∈ T.relationConcepts, ∀ callee t u,
      concept callee t u = true → ∀ v ∈ [callee, t, u], v.valid = true := by
  intro concept mem callee t u h
  simp only [relationConcepts, List.mem_cons, List.not_mem_nil, or_false] at mem
  rcases mem with rfl | rfl
  · exact valid_of_relation h
  · exact valid_of_relation h

/-- What holds only where a type is valid does not hold where it is invalid. -/
theorem eq_false_of_invalid {holds : Bool} (strict : holds = true → t.valid = true) (invalid : t.valid = false) :
    holds = false := by
  rw [← Bool.not_eq_true]
  intro h
  rw [strict h] at invalid
  contradiction

/-- No concept holds if some type, callee or element of a pack that it is asked about is invalid, however that is
spelled. -/
theorem concepts_of_invalid (chunked : T.Chunked) :
    (∀ concept ∈ T.typeConcepts, ∀ t : Ty ι, t.valid = false → concept t = false) ∧
      (∀ concept ∈ T.pairConcepts, ∀ t u : Ty ι, t.valid = false ∨ u.valid = false → concept t u = false) ∧
      (∀ concept ∈ T.packConcepts, ∀ (t : Ty ι) (p : Pack ι),
        (∃ u ∈ t :: p, u.valid = false) → concept t p = false) ∧
      (∀ concept ∈ T.relationConcepts, ∀ callee t u : Ty ι,
        (∃ v ∈ [callee, t, u], v.valid = false) → concept callee t u = false) ∧
      ∀ (op : Operation) (p : Pack ι) (t : Ty ι), t.valid = false →
        T.isDetectedExact t op p = false ∧ T.isDetectedConvertible t op p = false := by
  refine ⟨?_, ?_, ?_, ?_, ?_⟩
  · intro concept mem t invalid
    exact eq_false_of_invalid (valid_of_typeConcepts concept mem t) invalid
  · intro concept mem t u invalid
    have strict := chunked.valid_of_pairConcepts concept mem t u
    rcases invalid with ht | hu
    · exact eq_false_of_invalid (fun h => (strict h).1) ht
    · exact eq_false_of_invalid (fun h => (strict h).2) hu
  · rintro concept mem t p ⟨u, hu, invalid⟩
    exact eq_false_of_invalid (fun h => valid_of_packConcepts concept mem t p h u hu) invalid
  · rintro concept mem callee t u ⟨v, hv, invalid⟩
    exact eq_false_of_invalid (fun h => valid_of_relationConcepts concept mem callee t u h v hv) invalid
  · intro op p t invalid
    exact ⟨eq_false_of_invalid chunked.valid_of_isDetectedExact invalid, convertible_of_invalid_right invalid⟩

end Table

namespace Catalogue

theorem table_chunked : table.Chunked := by
  intro i
  rw [registration_table]
  cases i <;> exact Spelled.length_identity _

/-- An lvalue swapped with a reference to the sentinel, which is of the same kind and qualification, the sentinel among the
operands of other concepts, and operations that succeed where the sentinel is expected. -/
theorem concepts_of_invalid_reference :
    let t : Ty Item := .qualified .nonesuch .unqualified .lvalue
    (table.Chunked ∧ t.valid = false ∧ (Ty.nonesuch : Ty Item).valid = false) ∧
      table.copyable .nonesuch = false ∧ table.boolean t = false ∧
      table.swapExpression (lvalue .base) t = false ∧ table.commonWith t .nonesuch = false ∧
      table.constructible (value .base) [t] = false ∧ table.predicate (value .visitor) [t] = false ∧
      table.strictWeakOrder (value .less) (value .i32) t = false ∧
      table.isDetectedExact .nonesuch .decay [value .base] = false ∧
      table.isDetectedConvertible t .commonReference [lvalue .base] = false := by
  intro t
  have invalid : t.valid = false := rfl
  obtain ⟨htype, hpair, hpack, hrelation, hdetected⟩ := Table.concepts_of_invalid table_chunked
  refine ⟨⟨table_chunked, invalid, Ty.valid_nonesuch⟩, ?_, ?_, ?_, ?_, ?_, ?_, ?_, ?_, ?_⟩
  · exact htype table.copyable (by simp [Table.typeConcepts]) _ Ty.valid_nonesuch
  · exact htype table.boolean (by simp [Table.typeConcepts]) _ invalid
  · exact hpair table.swapExpression (by simp [Table.pairConcepts]) _ _ (.inr invalid)
  · exact hpair table.commonWith (by simp [Table.pairConcepts]) _ _ (.inl invalid)
  · exact hpack table.constructible (by simp [Table.packConcepts]) _ _ ⟨t, by simp, invalid⟩
  · exact hpack table.predicate (by simp [Table.packConcepts]) _ _ ⟨t, by simp, invalid⟩
  · exact hrelation table.strictWeakOrder (by simp [Table.relationConcepts]) _ _ _ ⟨t, by simp, invalid⟩
  · exact (hdetected .decay [value .base] _ Ty.valid_nonesuch).1
  · exact (hdetected .commonReference [lvalue .base] _ invalid).2

end Catalogue

end Concord
