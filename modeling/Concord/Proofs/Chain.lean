import Concord.Pack
import Concord.Proofs.ClassReference
import Concord.Proofs.CommonReference

/-!
# Packs along a chain of bases

A left fold can depend on the order of its pack. That of common references does not where the pack consists of
references to classes of which each two are the same or related: the answer so far refers to the most basic class that
was met, which is related to all that are still to come, and its decoration tells which categories were met and whether
an element was `const`.
-/

namespace Concord

namespace Pack

variable {ι : Type}

/-- `const` if an element is, or if elements of both categories occur. -/
def jointCv (p : Pack ι) : Cv := ⟨p.any (·.cv.isConst) || (p.any Ty.isLvalue && p.any Ty.isXvalue), false⟩

/-- The category of an lvalue if there is one in the pack. -/
def jointKind (p : Pack ι) : RefKind := if p.any Ty.isLvalue then .lvalue else .rvalue

variable {p q : Pack ι}

theorem isReference_jointKind (p : Pack ι) : p.jointKind.isReference = true := by
  unfold jointKind
  split <;> rfl

theorem any_isLvalue (h : ∃ t ∈ p, t.kind = .lvalue) : p.any Ty.isLvalue = true := by
  obtain ⟨t, mem, hkind⟩ := h
  exact List.any_eq_true.2 ⟨t, mem, Ty.isLvalue_iff.2 hkind⟩

theorem any_isXvalue (h : ∃ t ∈ p, t.kind = .rvalue) : p.any Ty.isXvalue = true := by
  obtain ⟨t, mem, hkind⟩ := h
  exact List.any_eq_true.2 ⟨t, mem, Ty.isXvalue_iff.2 hkind⟩

theorem any_isLvalue_eq_false (h : ∀ t ∈ p, t.kind = .rvalue) : p.any Ty.isLvalue = false := by
  apply List.any_eq_false.2
  intro t mem
  simp [Ty.isLvalue, h t mem]

theorem any_isXvalue_eq_false (h : ∀ t ∈ p, t.kind = .lvalue) : p.any Ty.isXvalue = false := by
  apply List.any_eq_false.2
  intro t mem
  simp [Ty.isXvalue, h t mem]

theorem jointCv_of_perm (h : q.Perm p) : q.jointCv = p.jointCv := by
  simp [jointCv, h.any_eq]

theorem jointKind_of_perm (h : q.Perm p) : q.jointKind = p.jointKind := by
  simp [jointKind, h.any_eq]

end Pack

namespace Table

variable {ι : Type}

/-- A pack of references to classes, none of them volatile, of which each two are the same or related. -/
structure Chain (T : Table ι) (p : Pack ι) : Prop where
  isClass : ∀ t ∈ p, T.isClass t.object = true
  reference : ∀ t ∈ p, t.isReference = true
  steady : ∀ t ∈ p, t.cv.isVolatile = false
  related : ∀ t ∈ p, ∀ u ∈ p, T.Derives t.object u.object ∨ T.Derives u.object t.object

/-- `r` is the reference to the most basic object of a pack that takes all of its elements. -/
structure Spans (T : Table ι) (p : Pack ι) (r : Ty ι) : Prop where
  mem : ∃ t ∈ p, r.object = t.object
  below : ∀ t ∈ p, T.Derives t.object r.object
  spelling : r = .build r.object p.jointCv p.jointKind

variable {T : Table ι} {p q : Pack ι} {t u r r' : Ty ι}

theorem Chain.subset (chain : T.Chain p) (h : q ⊆ p) : T.Chain q where
  isClass t ht := chain.isClass t (h ht)
  reference t ht := chain.reference t (h ht)
  steady t ht := chain.steady t (h ht)
  related t ht u hu := chain.related t (h ht) u (h hu)

theorem Spans.isClass (spans : T.Spans p r) (chain : T.Chain p) : T.isClass r.object = true := by
  obtain ⟨t, mem, hobject⟩ := spans.mem
  rw [hobject]
  exact chain.isClass t mem

theorem Spans.cv_eq (spans : T.Spans p r) (hr : r.valid = true) : r.cv = p.jointCv := by
  rw [spans.spelling]
  exact Ty.cv_build_of_valid hr _ _

theorem Spans.kind_eq (spans : T.Spans p r) (hr : r.valid = true) : r.kind = p.jointKind := by
  rw [spans.spelling]
  exact Ty.kind_build_of_valid hr _ _

/-- The reference to the elements so far forms a chain with each element to come. -/
theorem Spans.chain_pair (spans : T.Spans q r) (chain : T.Chain (q ++ [u])) : T.Chain [r, u] := by
  have hchain : T.Chain q := chain.subset (List.subset_append_left q [u])
  have hclass := spans.isClass hchain
  have hr : r.valid = true := T.valid_of_isClass hclass
  have hu : u ∈ q ++ [u] := by simp
  obtain ⟨t, mem, hobject⟩ := spans.mem
  have related : T.Derives r.object u.object ∨ T.Derives u.object r.object := by
    rw [hobject]
    exact chain.related t (List.mem_append_left _ mem) u hu
  constructor
  · simp [hclass, chain.isClass u hu]
  · have reference : r.isReference = true := by
      rw [Ty.isReference, spans.kind_eq hr]
      exact q.isReference_jointKind
    simp [reference, chain.reference u hu]
  · simp [spans.cv_eq hr, Pack.jointCv, chain.steady u hu]
  · simp [related, related.symm, Derives.refl]

/-- Which categories the element and those before it have decides the decoration. -/
theorem Spans.baseReference_eq (spans : T.Spans q r) (chain : T.Chain (q ++ [u])) :
    T.baseReference r u = .build (T.commonBase r.object u.object) (q ++ [u]).jointCv (q ++ [u]).jointKind := by
  have hchain : T.Chain q := chain.subset (List.subset_append_left q [u])
  have hr : r.valid = true := T.valid_of_isClass (spans.isClass hchain)
  have steady : u.cv.isVolatile = false := chain.steady u (by simp)
  have categories : (q.any Ty.isLvalue || q.any Ty.isXvalue) = true := by
    obtain ⟨t, mem, -⟩ := spans.mem
    rw [Bool.or_eq_true]
    rcases Ty.isReference_iff.1 (hchain.reference t mem) with hkind | hkind
    · exact Or.inl (Pack.any_isLvalue ⟨t, mem, hkind⟩)
    · exact Or.inr (Pack.any_isXvalue ⟨t, mem, hkind⟩)
  rw [baseReference, spans.cv_eq hr, spans.kind_eq hr]
  rcases Ty.isReference_iff.1 (chain.reference u (by simp)) with hkind | hkind
  · have hlvalue : u.isLvalue = true := Ty.isLvalue_iff.2 hkind
    have hxvalue : u.isXvalue = false := by
      rw [Ty.isXvalue, hkind]
      rfl
    cases hseen : q.any Ty.isLvalue with
    | false =>
        have hother : q.any Ty.isXvalue = true := by simpa [hseen] using categories
        simp [Pack.jointKind, Pack.jointCv, Cv.union, Cv.const, hkind, hlvalue, hseen, hother, steady]
    | true =>
        simp [Pack.jointKind, Pack.jointCv, Cv.union, hkind, hlvalue, hxvalue, hseen, steady, Bool.or_right_comm]
  · have hlvalue : u.isLvalue = false := by
      rw [Ty.isLvalue, hkind]
      rfl
    have hxvalue : u.isXvalue = true := Ty.isXvalue_iff.2 hkind
    cases hseen : q.any Ty.isLvalue with
    | false => simp [Pack.jointKind, Pack.jointCv, Cv.union, hkind, hlvalue, hseen, steady]
    | true => simp [Pack.jointKind, Pack.jointCv, Cv.union, Cv.const, hkind, hlvalue, hxvalue, hseen, steady]

/-- A reference spans itself. -/
theorem Spans.single (chain : T.Chain [t]) : T.Spans [t] t where
  mem := ⟨t, by simp, rfl⟩
  below := by
    intro u mem
    rw [List.mem_singleton.1 mem]
    exact .refl t.object
  spelling := by
    have hvalid : t.valid = true := T.valid_of_isClass (chain.isClass t (by simp))
    have reference := chain.reference t (by simp)
    have hcv : Pack.jointCv [t] = t.cv := by
      have hone : (Ty.isLvalue t && Ty.isXvalue t) = false := by
        cases hkind : t.kind <;> simp [Ty.isLvalue, Ty.isXvalue, hkind]
      simp only [Pack.jointCv, List.any_cons, List.any_nil, Bool.or_false, hone]
      rw [← chain.steady t (by simp)]
    have hkind : Pack.jointKind [t] = t.kind := by
      rcases Ty.isReference_iff.1 reference with hkind | hkind
      · simp [Pack.jointKind, Ty.isLvalue, hkind]
      · simp [Pack.jointKind, Ty.isLvalue, hkind]
    rw [hcv, hkind]
    exact (Ty.canon_of_isReference hvalid reference).symm

section PartialOrder

variable (acyclic : T.Acyclic) (distinct : T.Distinct)

include acyclic distinct

/-- Entries have no part in the common reference of references to related classes. -/
theorem commonReference_eq_baseReference (chain : T.Chain [t, u]) :
    T.commonReference t u = T.baseReference t u := by
  have ht := chain.isClass t (by simp)
  have hu := chain.isClass u (by simp)
  have steady : ¬ (t.kind ≠ u.kind ∧ (t.cv.isVolatile = true ∨ u.cv.isVolatile = true)) := by
    rw [chain.steady t (by simp), chain.steady u (by simp)]
    simp
  have hsimple := simpleReference_eq_baseReference acyclic distinct ht hu (chain.reference t (by simp))
    (chain.reference u (by simp))
  rw [if_neg steady] at hsimple
  rw [commonReference_of_simpleReference (T.valid_of_isClass ht) (T.valid_of_isClass hu), hsimple]
  rw [hsimple, valid_baseReference, valid_commonBase (T.valid_of_isClass ht) (T.valid_of_isClass hu),
    Bool.or_eq_true, sameOrDerived_iff acyclic distinct, sameOrDerived_iff acyclic distinct]
  exact chain.related t (by simp) u (by simp)

/-- One more element may make the class more basic, the reference `const` and its category that of an lvalue. -/
theorem Spans.append (chain : T.Chain (q ++ [u])) (spans : T.Spans q r) :
    T.Spans (q ++ [u]) (T.commonReference r u) := by
  have hchain : T.Chain q := chain.subset (List.subset_append_left q [u])
  have hu : u ∈ q ++ [u] := by simp
  have hpair : T.Chain [r, u] := spans.chain_pair chain
  have hr : r.valid = true := T.valid_of_isClass (spans.isClass hchain)
  rw [commonReference_eq_baseReference acyclic distinct hpair]
  have related : T.sameOrDerived r.object u.object = true ∨ T.sameOrDerived u.object r.object = true := by
    rw [sameOrDerived_iff acyclic distinct, sameOrDerived_iff acyclic distinct]
    exact hpair.related r (by simp) u (by simp)
  obtain ⟨hobject, hleft, hright⟩ := sameOrDerived_commonBase related
  rw [sameOrDerived_iff acyclic distinct] at hleft hright
  rw [spans.baseReference_eq chain]
  refine ⟨?_, ?_, ?_⟩
  · rw [Ty.object_build]
    rcases hobject with h | h
    · obtain ⟨t, mem, ht⟩ := spans.mem
      exact ⟨t, List.mem_append_left _ mem, h.trans ht⟩
    · exact ⟨u, hu, h⟩
  · intro t mem
    rw [Ty.object_build]
    rcases List.mem_append.1 mem with mem | mem
    · exact (spans.below t mem).trans hleft
    · rw [List.mem_singleton.1 mem]
      exact hright
  · rw [Ty.object_build]

/-- The common reference of a chain spans it. -/
theorem spans_commonReferenceOf (nonempty : p ≠ []) (chain : T.Chain p) : T.Spans p (T.commonReferenceOf p) := by
  apply commonReferenceOf_induction nonempty
  · intro t mem
    exact .single (chain.subset (by simpa using mem))
  · intro q u r initial spans
    exact spans.append acyclic distinct (chain.subset initial.subset)

omit distinct in
/-- What spans a pack does not depend on its order. -/
theorem Spans.eq_of_perm (spans : T.Spans p r) (spans' : T.Spans q r') (perm : q.Perm p) : r' = r := by
  have hobject : r'.object = r.object := by
    obtain ⟨t, mem, ht⟩ := spans.mem
    obtain ⟨u, mem', hu⟩ := spans'.mem
    apply Derives.antisymm acyclic
    · rw [hu]
      exact spans.below u (perm.subset mem')
    · rw [ht]
      exact spans'.below t (perm.symm.subset mem)
  calc
    r' = .build r'.object q.jointCv q.jointKind := spans'.spelling
    _ = .build r.object p.jointCv p.jointKind := by
      rw [hobject, Pack.jointCv_of_perm perm, Pack.jointKind_of_perm perm]
    _ = r := spans.spelling.symm

/-- References along a chain of bases have a common reference: that to the most basic class among them, in the category
of all, or as a `const` lvalue if they are of two categories. All orders of the pack give the same one. -/
theorem commonReferenceOf_chain (p : Pack ι) (long : 2 ≤ p.length) (chain : T.Chain p) :
    (T.commonReferenceOf p).valid = true ∧
      (∃ t ∈ p, (∀ u ∈ p, T.Derives u.object t.object) ∧
        ((∀ u ∈ p, u.kind = .lvalue) →
          T.commonReferenceOf p = .build t.object ⟨p.any (·.cv.isConst), false⟩ .lvalue) ∧
        ((∀ u ∈ p, u.kind = .rvalue) →
          T.commonReferenceOf p = .build t.object ⟨p.any (·.cv.isConst), false⟩ .rvalue) ∧
        ((∃ u ∈ p, u.kind = .lvalue) → (∃ u ∈ p, u.kind = .rvalue) →
          T.commonReferenceOf p = .build t.object .const .lvalue)) ∧
      ∀ q : Pack ι, q.Perm p → T.commonReferenceOf q = T.commonReferenceOf p := by
  have nonempty : p ≠ [] := by
    rintro rfl
    contradiction
  have spans := spans_commonReferenceOf acyclic distinct nonempty chain
  obtain ⟨t, mem, hobject⟩ := spans.mem
  have hspelling : T.commonReferenceOf p = .build t.object p.jointCv p.jointKind := hobject ▸ spans.spelling
  refine ⟨T.valid_of_isClass (spans.isClass chain), ⟨t, mem, ?_, ?_, ?_, ?_⟩, ?_⟩
  · intro u hu
    rw [← hobject]
    exact spans.below u hu
  · intro lvalues
    have hlvalue := Pack.any_isLvalue ⟨t, mem, lvalues t mem⟩
    rw [hspelling, Pack.jointKind, if_pos hlvalue]
    simp [Pack.jointCv, Pack.any_isXvalue_eq_false lvalues]
  · intro rvalues
    have hlvalue := Pack.any_isLvalue_eq_false rvalues
    rw [hspelling, Pack.jointKind, if_neg (by simp [hlvalue])]
    simp [Pack.jointCv, hlvalue]
  · intro lvalue rvalue
    have hlvalue := Pack.any_isLvalue lvalue
    rw [hspelling, Pack.jointKind, if_pos hlvalue]
    simp [Pack.jointCv, hlvalue, Pack.any_isXvalue rvalue, Cv.const]
  · intro q perm
    have hq : q ≠ [] := by
      rintro rfl
      exact nonempty perm.symm.eq_nil
    exact spans.eq_of_perm acyclic (spans_commonReferenceOf acyclic distinct hq (chain.subset perm.subset)) perm

end PartialOrder

end Table

namespace Catalogue

/-- Both categories, in an order in which the fold turns from an rvalue to a `const` lvalue after the first element, and
classes of which one has an entry for the other. -/
theorem commonReferenceOf_chain_crChild :
    let p := [rvalue .crChild, lvalue .crParent, lvalue .crChild]
    2 ≤ p.length ∧ separated.Chain p ∧ separated.commonReferenceOf p = constLvalue .crParent ∧
      (separated.commonReferenceOf p).valid = true ∧
      (∃ t ∈ p, (∀ u ∈ p, separated.Derives u.object t.object) ∧
        separated.commonReferenceOf p = .build t.object .const .lvalue) ∧
      separated.commonReferenceOf [lvalue .crChild, rvalue .crChild, lvalue .crParent] = constLvalue .crParent := by
  intro p
  have related : ∀ t ∈ p, ∀ u ∈ p, separated.sameOrDerived t.object u.object = true ∨
      separated.sameOrDerived u.object t.object = true := by decide
  have chain : separated.Chain p := by
    refine ⟨by decide, by decide, by decide, ?_⟩
    intro t ht u hu
    rw [← Table.sameOrDerived_iff separated_acyclic separated_distinct,
      ← Table.sameOrDerived_iff separated_acyclic separated_distinct]
    exact related t ht u hu
  obtain ⟨valid, ⟨t, mem, below, -, -, hmixed⟩, perm⟩ :=
    Table.commonReferenceOf_chain separated_acyclic separated_distinct p (by decide) chain
  have hvalue : separated.commonReferenceOf p = constLvalue .crParent := by decide
  refine ⟨by decide, chain, hvalue, valid, ⟨t, mem, below, hmixed (by decide) (by decide)⟩, ?_⟩
  rw [← hvalue]
  exact perm _ (by decide)

end Catalogue

end Concord
