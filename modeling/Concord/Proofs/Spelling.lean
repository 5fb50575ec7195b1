import Concord.Proofs.Failure

/-!
# Answers have one spelling

Operands, the types of entries and rules, and the results of signatures come in any spelling: an object with trivial
decorations written out, or decorations around the sentinel. An answer is built, rebuilt by a look-up or selected among
answers, and so leaves in the canonical spelling. Only the common reference of a single type is that type as it is spelled.
-/

namespace Concord

variable {ι : Type}

namespace Ty

/-- The canonical spellings are the sentinel, the objects alone, and the objects with a decoration that is not trivial. -/
theorem canonical_iff {t : Ty ι} :
    t.Canonical ↔ t = .nonesuch ∨ (∃ i, t = .plain (.registered i)) ∨
      ∃ i c k, (c ≠ .unqualified ∨ k ≠ .none) ∧ t = .qualified (.registered i) c k := by
  constructor
  · intro h
    cases h with
    | plain o =>
      cases o with
      | nonesuch => exact Or.inl rfl
      | registered i => exact Or.inr (Or.inl ⟨i, rfl⟩)
    | @qualified o c k valid decorated =>
      cases o with
      | nonesuch => contradiction
      | registered i => exact Or.inr (Or.inr ⟨i, c, k, decorated, rfl⟩)
  · rintro (rfl | ⟨i, rfl⟩ | ⟨i, c, k, decorated, rfl⟩)
    · exact canonical_nonesuch
    · exact .plain _
    · exact .qualified rfl decorated

theorem canonical_copyCv (s t : Ty ι) : (s.copyCv t).Canonical := by
  unfold copyCv
  split
  · exact canonical_build _ _ _
  · exact canonical_nonesuch

theorem canonical_of_mem_transforms {c : Cv} {u : Ty ι} {f : Ty ι → Ty ι} (mem : f ∈ transforms c u) (t : Ty ι) :
    (f t).Canonical := by
  simp only [transforms, List.mem_cons, List.not_mem_nil, or_false] at mem
  rcases mem with rfl | rfl | rfl | rfl | rfl | rfl | rfl | rfl | rfl | rfl | rfl | rfl | rfl
  any_goals exact canonical_build _ _ _
  · exact .plain _
  · exact .plain _
  · exact canonical_copyCv t u
  · exact canonical_copyCv u t

end Ty

namespace Table

/-- The rules that answer for two types. -/
def pairRules (T : Table ι) : List (Ty ι → Ty ι → Ty ι) :=
  [T.conditional, T.commonTypeEntry, T.commonReferenceEntry, T.lvalueReference, T.rvalueReference, T.mixedReference,
    T.simpleReference, T.commonType, T.commonReference]

variable {T : Table ι}

theorem canonical_of_mem_pairRules {rule : Ty ι → Ty ι → Ty ι} (mem : rule ∈ T.pairRules) (t u : Ty ι) :
    (rule t u).Canonical := by
  simp only [pairRules, List.mem_cons, List.not_mem_nil, or_false] at mem
  rcases mem with rfl | rfl | rfl | rfl | rfl | rfl | rfl | rfl | rfl
  · exact canonical_conditional t u
  · exact canonical_commonTypeEntry t u
  · exact canonical_commonReferenceEntry t u
  · exact canonical_lvalueReference t u
  · exact canonical_rvalueReference t u
  · exact canonical_mixedReference t u
  · exact canonical_simpleReference t u
  · exact canonical_commonType t u
  · exact canonical_commonReference t u

/-- However operands, entries and signatures are spelled, the answer of a transform, of a rule on two types, for a pack
other than a single type under common references, and of a call is the sentinel itself, an object alone, or a valid object
with a decoration that is not trivial. -/
theorem answers_canonical (T : Table ι) :
    (∀ t : Ty ι, t.Canonical ↔ t = .nonesuch ∨ (∃ i, t = .plain (.registered i)) ∨
        ∃ i c k, (c ≠ .unqualified ∨ k ≠ .none) ∧ t = .qualified (.registered i) c k) ∧
      (∀ t : Ty ι, t.canon.Canonical ∧ (T.prvalue t).Canonical) ∧
      (∀ (c : Cv) (t u : Ty ι), ∀ f ∈ Ty.transforms c u, (f t).Canonical) ∧
      (∀ t u : Ty ι, ∀ rule ∈ T.pairRules, (rule t u).Canonical) ∧
      (∀ p : Pack ι, (T.commonTypeOf p).Canonical ∧ (p.length ≠ 1 → (T.commonReferenceOf p).Canonical)) ∧
      ∀ (callee : Ty ι) (arguments : Pack ι), (T.invokeResult callee arguments).Canonical := by
  refine ⟨fun _ => Ty.canonical_iff, ?_, ?_, ?_, ?_, canonical_invokeResult⟩
  · intro t
    exact ⟨Ty.canonical_canon t, canonical_prvalue t⟩
  · intro c t u f mem
    exact Ty.canonical_of_mem_transforms mem t
  · intro t u rule mem
    exact canonical_of_mem_pairRules mem t u
  · intro p
    exact ⟨canonical_commonTypeOf p, canonical_commonReferenceOf⟩

end Table

namespace Catalogue

/-- An operand with its trivial decorations written out and a decorated sentinel as operands, an entry and a signature whose
types are written out, and a pack of which one type is: all leave in the canonical spelling. -/
theorem answers_canonical_spelledOut :
    let t := spelledOut .spec1
    let u : Ty Item := .qualified .nonesuch .const .lvalue
    (¬ t.Canonical ∧ ¬ u.Canonical) ∧
      (Ty.removeReference ∈ Ty.transforms .const u ∧ t.removeReference.Canonical ∧ u.removeReference.Canonical) ∧
      (separated.commonType ∈ separated.pairRules ∧ (separated.commonType t (value .i32)).Canonical ∧
        separated.commonType t (value .i32) = value .w) ∧
      ([t, value .i32].length ≠ 1 ∧ (separated.commonReferenceOf [t, value .i32]).Canonical) ∧
      (separated.invokeResult (value .overload) [value .i8]).Canonical ∧
      separated.invokeResult (value .overload) [value .i8] = value .i32 := by
  intro t u
  obtain ⟨-, -, htransform, hrule, hpack, hcall⟩ := Table.answers_canonical separated
  have mem : Ty.removeReference ∈ Ty.transforms .const u := by simp [Ty.transforms]
  have hmem : separated.commonType ∈ separated.pairRules := by simp [Table.pairRules]
  refine ⟨⟨?_, ?_⟩, ⟨mem, ?_, ?_⟩, ⟨hmem, ?_, by decide⟩, ⟨by decide, ?_⟩, hcall _ _, by decide⟩
  · intro canonical
    exact absurd (Ty.canon_eq_of_canonical canonical) (by decide)
  · intro canonical
    exact absurd (Ty.canon_eq_of_canonical canonical) (by decide)
  · exact htransform .const t u _ mem
  · exact htransform .const u u _ mem
  · exact hrule t (value .i32) _ hmem
  · exact (hpack [t, value .i32]).2 (by decide)

end Catalogue

end Concord
