import Concord.Catalogue.Numbered
import Concord.Pack
import Concord.Proofs.Binding
import Concord.Proofs.Derivation

/-!
# What the elements of a pack keep in common

Where objects are related by their bases only, the object of a common reference is one that each element of the pack
derives from, or a number that numbers were converted to. So each element converts to the common reference, with
exceptions that a left fold cannot avoid: an answer that turned into a value on the way takes elements of every category
and qualification, but may turn into an rvalue reference to a base again, and an object that derives from a number does
not follow that number through a conversion to another.
-/

namespace Concord

namespace Table

variable {ι : Type}

/-- `o` is an object that `a` and `b` both are or derive from, or a number that values are promoted to. -/
def SharedObject (T : Table ι) (a b o : Object ι) : Prop :=
  (T.sameOrDerived a o = true ∧ T.sameOrDerived b o = true) ∨ ∃ rank, o = T.promoted rank

/-- What operands of the objects `a` and `b` have in common is of the object `o`: the base among the two of them, or the
number that both are converted to. -/
inductive MeetAt (T : Table ι) (a b o : Object ι) : Prop where
  | base (left : T.sameOrDerived a o = true) (right : T.sameOrDerived b o = true) (mem : o = a ∨ o = b) : MeetAt T a b o
  | number (left : T.isArithmetic a = true) (right : T.isArithmetic b = true) (promoted : o = T.usualArithmetic a b) :
      MeetAt T a b o

/-- `t` led to the answer `r`: its object is or derives from that of `r`, unless `r` is a number that values were
converted to, and it binds to `r` if that is an lvalue. -/
structure LeadsTo (T : Table ι) (t r : Ty ι) : Prop where
  valid : t.valid = true
  object : T.sameOrDerived t.object r.object = true ∨
    (r.isReference = false ∧ ∃ rank, r.object = T.promoted rank)
  category : r.isLvalue = true → r.cv = .const ∨ (t.isLvalue = true ∧ r.cv.covers t.cv = true)

variable {T : Table ι} {t u r s : Ty ι} {p : Pack ι} {a b o : Object ι}

theorem MeetAt.symm (h : T.MeetAt a b o) : T.MeetAt b a o := by
  cases h with
  | base left right mem => exact .base right left mem.symm
  | number left right promoted => exact .number right left (by rw [promoted, T.usualArithmetic_comm])

theorem MeetAt.sharedObject (h : T.MeetAt a b o) : T.SharedObject a b o := by
  cases h with
  | base left right _ => exact Or.inl ⟨left, right⟩
  | number _ _ promoted => exact Or.inr ⟨_, promoted⟩

theorem LeadsTo.refl (valid : t.valid = true) : T.LeadsTo t t where
  valid := valid
  object := Or.inl (T.sameOrDerived_self _)
  category lvalue := Or.inr ⟨lvalue, Cv.covers_refl _⟩

theorem Joins.leadsTo (joins : T.Joins t u r) (valid : t.valid = true) : T.LeadsTo t r where
  valid := valid
  object := Or.inl (refRelated_of_refCompatible joins.left)
  category lvalue := by
    rcases joins.category with ⟨xvalue, -⟩ | ⟨-, const | ⟨ht, -⟩⟩
    · rw [Ty.isXvalue_iff, Ty.isLvalue_iff.1 lvalue] at xvalue
      contradiction
    · exact Or.inl const
    · have compatible := joins.left
      simp only [refCompatible, Bool.and_eq_true] at compatible
      exact Or.inr ⟨ht, compatible.2⟩

theorem sameOrDerived_promoted (distinct : T.Distinct) {rank : Rank} {o : Object ι}
    (h : T.sameOrDerived (T.promoted rank) o = true) : o = T.promoted rank := by
  obtain ⟨i, hi, builtin⟩ := T.promoted_builtin rank
  have hbases : T.bases (T.promoted rank) = [] := by
    rw [hi]
    exact builtin.bases_eq
  simpa [sameOrDerived, isDerived, hbases, distinct.sameObject_iff, eq_comm] using h

section Distinct

variable (distinct : T.Distinct)

include distinct

/-- Without registered conversions operands meet in a base of both that is an object of one, or as numbers. -/
theorem Meets.meetAt (free : T.ConversionFree) (meets : T.Meets t u r) : T.MeetAt t.object u.object r.object := by
  cases meets with
  | glvalue _ _ same =>
      simp only [sameReferent, Bool.and_eq_true, distinct.sameObject_iff] at same
      apply MeetAt.base <;> simp [same.1]
  | bind _ binds =>
      apply MeetAt.base <;> simp [sameOrDerived_of_bindsDirectly binds]
  | value needs _ value =>
      have derived : T.sameOrDerived t.object u.object = true := by
        unfold prvalueConverts at value
        split at value
        · simp only [Bool.and_eq_true] at value
          exact value.1
        · by_cases same : t.object = u.object
          · rw [same]
            exact T.sameOrDerived_self _
          · have hclass := anyClass_of_needsConversion distinct same needs
            rw [convertible_of_kind_none (kind_prvalue u), object_prvalue, free.valueConvertible_eq] at value
            simp only [standardConvertible, Bool.and_eq_true, Bool.or_eq_true] at value
            rcases value.2 with ⟨derived, -⟩ | ⟨ht, hu⟩
            · exact derived
            · simp [anyClass, T.isClass_eq_false_of_isArithmetic ht, T.isClass_eq_false_of_isArithmetic hu] at hclass
      apply MeetAt.base <;> simp [derived]
  | sameValue same =>
      simp only [isSame, object_prvalue, Bool.and_eq_true, distinct.sameObject_iff] at same
      apply MeetAt.base <;> simp [same.1]
  | number _ hta hua => exact .number hta hua rfl

theorem conditional_meetAt (free : T.ConversionFree) (valid : (T.conditional t u).valid = true) :
    T.MeetAt t.object u.object (T.conditional t u).object := by
  rcases conditional_meets distinct valid with meets | meets
  · exact meets.meetAt distinct free
  · exact (meets.meetAt distinct free).symm

theorem commonType_meetAt (free : T.ConversionFree)
    (unregistered : (T.commonTypeEntry t.decay u.decay).valid = false) (valid : (T.commonType t u).valid = true) :
    T.MeetAt t.object u.object (T.commonType t u).object := by
  obtain ⟨ht, hu⟩ := valid_of_commonType valid
  rw [commonType_eq_commonByValue unregistered ht hu] at valid ⊢
  simpa [commonByValue] using conditional_meetAt distinct free valid

/-- Both operands lead to their common reference. -/
theorem leadsTo_commonReference (free : T.ConversionFree) (unspecialized : T.Unspecialized t u)
    (valid : (T.commonReference t u).valid = true) :
    T.LeadsTo t (T.commonReference t u) ∧ T.LeadsTo u (T.commonReference t u) := by
  obtain ⟨ht, hu⟩ := valid_of_commonReference valid
  cases reference : (T.commonReference t u).isReference with
  | true =>
      have joins := commonReference_joins distinct unspecialized reference
      exact ⟨joins.leadsTo ht, joins.symm.leadsTo hu⟩
  | false =>
      have hobject : T.SharedObject t.object u.object (T.commonReference t u).object := by
        rcases commonReference_cases unspecialized ht hu with ⟨hsimple, h⟩ | ⟨hconditional, h⟩ | h
        · rw [h]
          have joins := simpleReference_joins distinct ht hu hsimple
          exact Or.inl ⟨refRelated_of_refCompatible joins.left, refRelated_of_refCompatible joins.right⟩
        · rw [h]
          exact (conditional_meetAt distinct free hconditional).sharedObject
        · rw [h] at valid ⊢
          exact (commonType_meetAt distinct free unspecialized.type valid).sharedObject
      have category : (T.commonReference t u).isLvalue = false := by
        rw [Ty.isLvalue, Ty.isReference_eq_false_iff.1 reference]
        rfl
      refine ⟨⟨ht, ?_, by simp [category]⟩, ⟨hu, ?_, by simp [category]⟩⟩
      · exact hobject.imp And.left fun h => ⟨reference, h⟩
      · exact hobject.imp And.right fun h => ⟨reference, h⟩

/-- A value that is no class has no reference for its common reference with anything. -/
theorem isReference_commonReference_eq_false (unspecialized : T.Unspecialized t u) (value : t.isReference = false)
    (hclass : T.isClass t.object = false) : (T.commonReference t u).isReference = false := by
  by_contra reference
  rw [Bool.not_eq_false] at reference
  have hkind : t.kind = .none := Ty.isReference_eq_false_iff.1 value
  obtain ⟨ht, hu⟩ := valid_of_isReference_commonReference reference
  rcases commonReference_cases unspecialized ht hu with ⟨valid, h⟩ | ⟨valid, h⟩ | h
  · simp [simpleReference, hkind] at valid
  · rw [h] at reference
    rcases conditional_meets distinct valid with meets | meets
    · obtain ⟨binds, -⟩ := meets.bindsDirectly distinct reference
      simp [bindsDirectly, Ty.isLvalue, Ty.isXvalue, hkind, hclass] at binds
    · obtain ⟨binds, -⟩ := meets.bindsDirectly distinct reference
      rw [isReference_of_bindsDirectly binds] at value
      contradiction
  · rw [h, isReference_commonType unspecialized] at reference
    contradiction

end Distinct

/-- What leads to an answer converts to it, unless an rvalue reference refuses its category or its qualifiers, or it has
to follow a number that it is none of itself. -/
theorem LeadsTo.convertible_iff (free : T.ConversionFree) (leads : T.LeadsTo t r) (hr : r.valid = true)
    (steady : t.cv.isVolatile = false) :
    T.convertible t r = true ↔
      (r.isXvalue = true → t.isLvalue = false ∧ r.cv.covers t.cv = true) ∧
        (T.sameOrDerived t.object r.object = true ∨ T.isArithmetic t.object = true) := by
  have derived (reference : r.isReference = true) : T.sameOrDerived t.object r.object = true := by
    rcases leads.object with derived | ⟨value, -⟩
    · exact derived
    · rw [reference] at value
      contradiction
  cases hkind : r.kind with
  | none =>
      have hxvalue : r.isXvalue = false := by
        rw [Ty.isXvalue, hkind]
        rfl
      rw [convertible_of_kind_none hkind, leads.valid, hr, free.valueConvertible_eq, Bool.true_and, Bool.true_and,
        standardConvertible_iff (volatileClass_of_cv steady)]
      constructor
      · intro h
        exact ⟨by simp [hxvalue], h.imp_right And.left⟩
      · rintro ⟨-, related | number⟩
        · exact Or.inl related
        · refine leads.object.imp_right ?_
          rintro ⟨-, rank, hobject⟩
          rw [hobject]
          exact ⟨number, T.isArithmetic_promoted rank⟩
  | lvalue =>
      have lvalue : r.isLvalue = true := Ty.isLvalue_iff.2 hkind
      have hxvalue : r.isXvalue = false := by
        rw [Ty.isXvalue, hkind]
        rfl
      have related := derived (Ty.isReference_iff.2 (Or.inl hkind))
      have converts : T.convertible t r = true := by
        rcases leads.category lvalue with const | ⟨ht, covers⟩
        · apply convertible_of_isLvalue leads.valid hr lvalue _ (Or.inr const)
          apply refCompatible_of_covers related
          rw [const]
          exact Cv.const_covers steady
        · exact convertible_of_isLvalue leads.valid hr lvalue (refCompatible_of_covers related covers) (Or.inl ht)
      simp [converts, hxvalue, related]
  | rvalue =>
      have xvalue : r.isXvalue = true := Ty.isXvalue_iff.2 hkind
      have related := derived (Ty.isReference_iff.2 (Or.inr hkind))
      simp [convertible, leads.valid, hr, hkind, refCompatible, refRelated, related, xvalue]

section PartialOrder

variable (acyclic : T.Acyclic) (distinct : T.Distinct)

include acyclic distinct

/-- What led to an answer leads on to the next one, if that is not volatile and a number that is a value stays a value. -/
theorem LeadsTo.trans (first : T.LeadsTo t r) (second : T.LeadsTo r s) (steady : s.cv.isVolatile = false)
    (value : r.isReference = false → T.isClass r.object = false → s.isReference = false) : T.LeadsTo t s where
  valid := first.valid
  object := by
    rcases second.object with derived | number
    · rcases first.object with h | ⟨hvalue, rank, h⟩
      · exact Or.inl (sameOrDerived_trans acyclic distinct h derived)
      · -- A number that values were converted to derives from nothing, so `s` is that number still.
        have hclass : T.isClass r.object = false := by
          rw [h]
          exact T.isClass_eq_false_of_isArithmetic (T.isArithmetic_promoted rank)
        rw [h] at derived
        exact Or.inr ⟨value hvalue hclass, rank, sameOrDerived_promoted distinct derived⟩
    · exact Or.inr number
  category lvalue := by
    rcases second.category lvalue with const | ⟨hr, covers⟩
    · exact Or.inl const
    · rcases first.category hr with const | ⟨ht, covers'⟩
      · left
        rw [const] at covers
        exact Cv.eq_const_of_covers covers steady
      · exact Or.inr ⟨ht, Cv.covers_trans covers covers'⟩

/-- All elements of a pack lead to its common reference. -/
theorem leadsTo_commonReferenceOf (free : T.ConversionFree) (entryFree : T.EntryFree)
    (steady : ∀ t ∈ p, t.cv.isVolatile = false) (valid : (T.commonReferenceOf p).valid = true) :
    ∀ t ∈ p, T.LeadsTo t (T.commonReferenceOf p) := by
  have nonempty : p ≠ [] := by
    rintro rfl
    contradiction
  -- An answer that is not volatile takes the elements on, so this goes along in the induction.
  have hlead : (T.commonReferenceOf p).valid = true →
      (T.commonReferenceOf p).cv.isVolatile = false ∧ ∀ t ∈ p, T.LeadsTo t (T.commonReferenceOf p) := by
    refine commonReferenceOf_induction (motive := fun q r =>
      r.valid = true → r.cv.isVolatile = false ∧ ∀ t ∈ q, T.LeadsTo t r) nonempty ?_ ?_
    · intro t mem valid
      refine ⟨steady t mem, ?_⟩
      intro u hu
      rw [List.mem_singleton.1 hu]
      exact .refl valid
    · intro q u r initial ih valid
      obtain ⟨hr, hleads⟩ := ih (valid_of_commonReference valid).1
      have unspecialized := entryFree.unspecialized r u
      have hsteady := isVolatile_commonReference distinct unspecialized hr
        (steady u (initial.subset (by simp)))
      obtain ⟨hleft, hright⟩ := leadsTo_commonReference distinct free unspecialized valid
      refine ⟨hsteady, ?_⟩
      intro t mem
      rcases List.mem_append.1 mem with mem | mem
      · exact (hleads t mem).trans acyclic distinct hleft hsteady
          (isReference_commonReference_eq_false distinct unspecialized)
      · rw [List.mem_singleton.1 mem]
        exact hright
  exact (hlead valid).2

/-- Where only bases relate objects, an element of a pack without volatile types converts to the common reference of the
pack if it does not have to bind to an rvalue reference as an lvalue or without a qualifier, and if its object derives
from that of the reference or is a number. Objects that do not derive from it come to a value that is a number. -/
theorem convertible_commonReferenceOf_iff (free : T.ConversionFree) (entryFree : T.EntryFree) (p : Pack ι)
    (steady : ∀ t ∈ p, t.cv.isVolatile = false) (valid : (T.commonReferenceOf p).valid = true) :
    ∀ t ∈ p,
      (T.convertible t (T.commonReferenceOf p) = true ↔
        ((T.commonReferenceOf p).isXvalue = true →
            t.isLvalue = false ∧ (T.commonReferenceOf p).cv.covers t.cv = true) ∧
          (T.Derives t.object (T.commonReferenceOf p).object ∨ T.isArithmetic t.object = true)) ∧
        (T.Derives t.object (T.commonReferenceOf p).object ∨
          ((T.commonReferenceOf p).isReference = false ∧
            T.isArithmetic (T.commonReferenceOf p).object = true)) := by
  intro t mem
  have leads := leadsTo_commonReferenceOf acyclic distinct free entryFree steady valid t mem
  rw [← sameOrDerived_iff acyclic distinct]
  refine ⟨leads.convertible_iff free valid (steady t mem), ?_⟩
  rcases leads.object with derived | ⟨value, rank, hobject⟩
  · exact Or.inl derived
  · rw [hobject]
    exact Or.inr ⟨value, T.isArithmetic_promoted rank⟩

end PartialOrder

end Table

namespace Catalogue

theorem hierarchy_conversionFree : hierarchy.ConversionFree where
  convertsTo o := by cases o <;> rfl
  convertsFrom o := by cases o <;> rfl

theorem hierarchy_entryFree : hierarchy.EntryFree where
  types o := by cases o <;> rfl
  references o := by cases o <;> rfl

/-- A value of a class binds to the rvalue reference to a base, which the lvalue before it does not. -/
theorem convertible_commonReferenceOf_iff_leaf :
    let p := [lvalue .leaf, value .leaf, rvalue .mixin]
    (hierarchy.ConversionFree ∧ hierarchy.EntryFree) ∧ (∀ t ∈ p, t.cv.isVolatile = false) ∧
      (hierarchy.commonReferenceOf p).valid = true ∧ hierarchy.commonReferenceOf p = rvalue .mixin ∧
      hierarchy.convertible (value .leaf) (hierarchy.commonReferenceOf p) = true ∧
      hierarchy.convertible (lvalue .leaf) (hierarchy.commonReferenceOf p) = false := by
  intro p
  have steady : ∀ t ∈ p, t.cv.isVolatile = false := by decide
  have hvalue : hierarchy.commonReferenceOf p = rvalue .mixin := by decide
  have valid : (hierarchy.commonReferenceOf p).valid = true := by
    rw [hvalue]
    decide
  have h := Table.convertible_commonReferenceOf_iff hierarchy_acyclic hierarchy_distinct hierarchy_conversionFree
    hierarchy_entryFree p steady valid
  refine ⟨⟨hierarchy_conversionFree, hierarchy_entryFree⟩, steady, valid, hvalue, ?_, ?_⟩
  · apply (h (value .leaf) (by decide)).1.2
    rw [hvalue]
    exact ⟨fun _ => by decide, Or.inl (.of_mem_bases (by decide))⟩
  · rw [← Bool.not_eq_true, (h (lvalue .leaf) (by decide)).1, hvalue]
    rintro ⟨category, -⟩
    exact absurd (category (by decide)).1 (by decide)

/-- An element of a pack does not convert to the common reference of the pack. -/
def Excepted (T : Table Item) (p : Pack Item) (t r : Ty Item) : Prop :=
  t ∈ p ∧ (∀ u ∈ p, u.cv.isVolatile = false) ∧ T.commonReferenceOf p = r ∧ r.valid = true ∧
    T.convertible t r = false

/-- An lvalue and a `const` value of a class whose values were then bound to a base as rvalues, and an object that derives
from a number other than the answer. -/
theorem convertible_commonReferenceOf_eq_false :
    (hierarchy.Acyclic ∧ hierarchy.Distinct) ∧ (hierarchy.ConversionFree ∧ hierarchy.EntryFree) ∧
      Excepted hierarchy [lvalue .leaf, value .leaf, rvalue .mixin] (lvalue .leaf) (rvalue .mixin) ∧
      Excepted hierarchy [(value .child).addConst, value .parent, rvalue .grand] (value .child).addConst
        (rvalue .grand) ∧
      Excepted hierarchy [value .intLike, value .i32, value .i64] (value .intLike) (value .i64) := by
  refine ⟨⟨hierarchy_acyclic, hierarchy_distinct⟩, ⟨hierarchy_conversionFree, hierarchy_entryFree⟩, ?_, ?_, ?_⟩
  · exact ⟨by decide, by decide, by decide, by decide, by decide⟩
  · exact ⟨by decide, by decide, by decide, by decide, by decide⟩
  · exact ⟨by decide, by decide, by decide, by decide, by decide⟩

end Catalogue

end Concord
