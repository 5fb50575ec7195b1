import Concord.Catalogue.Numbered
import Concord.Concept.Comparison
import Concord.Proofs.Promotion
import Concord.Proofs.Sharing

/-!
# Concepts on two numbers

Two numbers without entries have a common reference whatever decorates them, and its object is the one that their common
type has. This object is again a number without entries: one of the two, or a built-in one. So each question that a concept
asks about an answer is a question about two numbers once more.
-/

namespace Concord

namespace Table

variable {ι : Type}

/-- A number that registers no entry. -/
structure EntryFreeNumber (T : Table ι) (o : Object ι) : Prop where
  isArithmetic : T.isArithmetic o = true
  types : T.commonTypes o = []
  references : T.commonReferences o = []

variable {T : Table ι} {t u r : Ty ι} {a b : Object ι}

theorem entryFreeNumber_promoted (rank : Rank) : T.EntryFreeNumber (T.promoted rank) := by
  refine ⟨T.isArithmetic_promoted rank, commonTypes_promoted rank, ?_⟩
  obtain ⟨i, hi, builtin⟩ := T.promoted_builtin rank
  rw [hi]
  exact builtin.commonReferences_eq

theorem EntryFreeNumber.joinNumbers (ha : T.EntryFreeNumber a) : T.EntryFreeNumber (T.joinNumbers a b) := by
  unfold Table.joinNumbers
  split
  · exact ha
  · exact entryFreeNumber_promoted _

theorem EntryFreeNumber.valid (h : T.EntryFreeNumber t.object) : t.valid = true := T.valid_of_isArithmetic h.isArithmetic

theorem EntryFreeNumber.volatileClass (h : T.EntryFreeNumber t.object) : T.volatileClass t = false := by
  rw [Table.volatileClass, T.isClass_eq_false_of_isArithmetic h.isArithmetic, Bool.false_and]

theorem EntryFreeNumber.unspecialized (h : T.EntryFreeNumber t.object) (u : Ty ι) : T.Unspecialized t u where
  reference := by simp [commonReferenceEntry, entry?, h.references]
  type := valid_commonTypeEntry_of_nil h.types

/-- Numbers compare by the operators of the language. -/
theorem hasOperator_of_isArithmetic (operands : Object ι → List (Object ι)) (ht : T.isArithmetic t.object = true)
    (hu : T.isArithmetic u.object = true) : T.hasOperator operands t u = true := by
  have hvt : t.valid = true := T.valid_of_isArithmetic ht
  have hvu : u.valid = true := T.valid_of_isArithmetic hu
  simp [hasOperator, toArithmetic, ht, hu, hvt, hvu]

theorem strictTotallyOrdered_of_isArithmetic (ht : T.isArithmetic t.object = true) :
    T.equalityComparable t = true ∧ T.strictTotallyOrdered t = true := by
  have hequality : T.hasEquality t t = true := hasOperator_of_isArithmetic T.equality ht ht
  have hordering : T.hasOrdering t t = true := hasOperator_of_isArithmetic T.ordering ht ht
  simp [strictTotallyOrdered, equalityComparable, weaklyEqualityComparableWith, hequality, hordering]

section Distinct

variable (distinct : T.Distinct)

include distinct

theorem joinNumbers_comm (a b : Object ι) : T.joinNumbers a b = T.joinNumbers b a := by
  by_cases same : a = b
  · rw [same]
  · rw [joinNumbers_of_ne distinct same, joinNumbers_of_ne distinct (Ne.symm same), T.usualArithmetic_comm]

/-- What the conditional operator answers for two numbers has the object of their common type. -/
theorem object_conditional_of_isArithmetic (ht : T.isArithmetic t.object = true) (hu : T.isArithmetic u.object = true)
    (valid : (T.conditional t u).valid = true) :
    (T.conditional t u).object = T.joinNumbers t.object u.object := by
  by_cases same : t.object = u.object
  · rw [same, joinNumbers_self]
    rcases conditional_meets distinct valid with meets | meets
    · exact meets.object_eq same
    · rw [meets.object_eq same.symm, same]
  · rw [conditional_of_isArithmetic distinct same ht hu, joinNumbers_of_ne distinct same]
    rfl

/-- The simple rules ask the conditional operator about lvalues of the two objects. -/
theorem Simple.object_of_isArithmetic (ht : T.isArithmetic t.object = true) (hu : T.isArithmetic u.object = true)
    (simple : T.Simple t u r) : r.object = T.joinNumbers t.object u.object := by
  obtain ⟨c, -, l, hl, valid, -, hdecay⟩ :=
    simple.source distinct (T.valid_of_isArithmetic ht) (T.valid_of_isArithmetic hu)
  subst hl
  have hobject := object_conditional_of_isArithmetic distinct (by rwa [Ty.object_build]) (by rwa [Ty.object_build]) valid
  calc
    r.object = r.decay.object := rfl
    _ = (T.conditional (.build t.object c .lvalue) (.build u.object c .lvalue)).object := by rw [hdecay, Ty.object_decay]
    _ = T.joinNumbers t.object u.object := by rw [hobject, Ty.object_build, Ty.object_build]

variable (ht : T.EntryFreeNumber t.object) (hu : T.EntryFreeNumber u.object)

include ht hu

theorem valid_commonType_of_entryFreeNumber : (T.commonType t u).valid = true := by
  rw [commonType_eq_joinNumbers distinct ht.isArithmetic hu.isArithmetic ht.types]
  exact T.valid_of_isArithmetic ht.joinNumbers.isArithmetic

/-- The common reference of two numbers has the object of their common type, which is a number again. -/
theorem object_commonReference_of_entryFreeNumber :
    (T.commonReference t u).object = T.joinNumbers t.object u.object := by
  rcases commonReference_cases (ht.unspecialized u) ht.valid hu.valid with ⟨valid, h⟩ | ⟨valid, h⟩ | h
  · rw [h]
    rcases simpleReference_simple valid with simple | simple
    · exact simple.object_of_isArithmetic distinct ht.isArithmetic hu.isArithmetic
    · rw [simple.object_of_isArithmetic distinct hu.isArithmetic ht.isArithmetic, joinNumbers_comm distinct]
  · rw [h]
    exact object_conditional_of_isArithmetic distinct ht.isArithmetic hu.isArithmetic valid
  · rw [h, commonType_eq_joinNumbers distinct ht.isArithmetic hu.isArithmetic ht.types]
    rfl

theorem entryFreeNumber_commonReference : T.EntryFreeNumber (T.commonReference t u).object := by
  rw [object_commonReference_of_entryFreeNumber distinct ht hu]
  exact ht.joinNumbers

/-- Two numbers share their common reference, also where one of them is volatile. -/
theorem commonReferenceWith_of_entryFreeNumber : T.commonReferenceWith t u = true := by
  have valid : (T.commonReference t u).valid = true := (entryFreeNumber_commonReference distinct ht hu).valid
  have hcomm : T.commonReference t u = T.commonReference u t :=
    commonReference_comm distinct (ht.unspecialized u) (hu.unspecialized t)
  obtain ⟨hleft, hright⟩ :=
    convertible_commonReference distinct ht.volatileClass hu.volatileClass (ht.unspecialized u) valid
  simp [commonReferenceWith, convertibleTo, same, ← hcomm, hleft, hright]

theorem commonWith_of_entryFreeNumber : T.commonWith t u = true := by
  have valid := valid_commonType_of_entryFreeNumber distinct ht hu
  have hcomm : T.commonType t u = T.commonType u t :=
    commonType_comm distinct (ht.unspecialized u) (hu.unspecialized t)
  obtain ⟨hleft, hright⟩ := convertible_commonType distinct ht.volatileClass hu.volatileClass (ht.unspecialized u) valid
  have hconst : T.EntryFreeNumber t.asConstLvalue.object ∧ T.EntryFreeNumber u.asConstLvalue.object := by
    rw [Ty.object_asConstLvalue, Ty.object_asConstLvalue]
    exact ⟨ht, hu⟩
  have hshared : T.EntryFreeNumber (T.commonType t u).addLvalueReference.object := by
    rw [Ty.object_addLvalueReference, commonType_eq_joinNumbers distinct ht.isArithmetic hu.isArithmetic ht.types]
    exact ht.joinNumbers
  have hreference := entryFreeNumber_commonReference distinct hconst.1 hconst.2
  simp [commonWith, convertibleTo, same, ← hcomm, hleft, hright,
    commonReferenceWith_of_entryFreeNumber distinct hconst.1 hconst.2,
    commonReferenceWith_of_entryFreeNumber distinct hshared hreference]

/-- Two numbers without entries have a common type, compare for equality and are ordered, whatever qualifiers and references
decorate them, and also if one derives from the other. -/
theorem numbers_ordered :
    T.commonWith t u = true ∧ T.equalityComparableWith t u = true ∧ T.strictTotallyOrderedWith t u = true := by
  have hconst : T.EntryFreeNumber t.constLvalue.object ∧ T.EntryFreeNumber u.constLvalue.object := by
    rw [Ty.object_constLvalue, Ty.object_constLvalue]
    exact ⟨ht, hu⟩
  have hreference := commonReferenceWith_of_entryFreeNumber distinct hconst.1 hconst.2
  have hanswer := (entryFreeNumber_commonReference distinct hconst.1 hconst.2).isArithmetic
  obtain ⟨hequality, hordering⟩ := strictTotallyOrdered_of_isArithmetic ht.isArithmetic
  obtain ⟨hequality', hordering'⟩ := strictTotallyOrdered_of_isArithmetic hu.isArithmetic
  obtain ⟨hequality'', hordering''⟩ := strictTotallyOrdered_of_isArithmetic hanswer
  have hoperator (operands : Object ι → List (Object ι)) :
      T.hasOperator operands t u = true ∧ T.hasOperator operands u t = true :=
    ⟨hasOperator_of_isArithmetic operands ht.isArithmetic hu.isArithmetic,
      hasOperator_of_isArithmetic operands hu.isArithmetic ht.isArithmetic⟩
  have hwith : T.equalityComparableWith t u = true := by
    simp [equalityComparableWith, weaklyEqualityComparableWith, hasEquality, hequality, hequality', hequality'',
      hreference, hoperator]
  refine ⟨commonWith_of_entryFreeNumber distinct ht hu, hwith, ?_⟩
  simp [strictTotallyOrderedWith, hasOrdering, hordering, hordering', hordering'', hreference, hwith, hoperator]

end Distinct

end Table

namespace Catalogue

/-- A volatile number and a `const` rvalue of another one from which it derives. -/
theorem numbers_ordered_odd_wide :
    let t := (value .odd).addVolatile.addLvalueReference
    let u := (value .wide).addConst.rvalue
    (separated.Distinct ∧ separated.EntryFreeNumber t.object ∧ separated.EntryFreeNumber u.object) ∧
      separated.isDerived t.object u.object = true ∧ separated.commonType t u = value .i64 ∧
      separated.commonWith t u = true ∧ separated.equalityComparableWith t u = true ∧
      separated.strictTotallyOrderedWith t u = true := by
  intro t u
  have ht : separated.EntryFreeNumber t.object := ⟨by decide, rfl, rfl⟩
  have hu : separated.EntryFreeNumber u.object := ⟨by decide, rfl, rfl⟩
  exact ⟨⟨separated_distinct, ht, hu⟩, by decide, by decide, Table.numbers_ordered separated_distinct ht hu⟩

end Catalogue

end Concord
