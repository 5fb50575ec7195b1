import Concord.Catalogue.Numbered
import Concord.Proofs.Derivation
import Concord.Proofs.SimpleReference

/-!
# Simple references between classes

Between classes the simple rules have a closed form. Two references have a simple common reference if one class is the
other or derives from it, and it refers to the more basic class. Conversions that the classes register are never asked
about: an lvalue of a class binds directly to its bases, and other lvalues of one qualification bind to nothing. Only an
lvalue and an rvalue of which one is volatile have none, because the rvalue would have to bind to a reference that is
not exactly `const`.
-/

namespace Concord

namespace Table

variable {ι : Type}

/-- The one of two objects that the other is or derives from; the sentinel for unrelated ones. -/
def commonBase (T : Table ι) (a b : Object ι) : Object ι :=
  if T.sameOrDerived a b then b else if T.sameOrDerived b a then a else .nonesuch

/-- The reference to the common base of two referents: with the qualifiers of both and in the category of both, or as a
`const` lvalue if they are of two categories. -/
def baseReference (T : Table ι) (t u : Ty ι) : Ty ι :=
  if t.kind = u.kind then .build (T.commonBase t.object u.object) (t.cv.union u.cv) t.kind
  else .build (T.commonBase t.object u.object) (Cv.const.union (t.cv.union u.cv)) .lvalue

variable {T : Table ι} {t u : Ty ι} {a b : Object ι}

theorem commonBase_of_sameOrDerived (h : T.sameOrDerived a b = true) : T.commonBase a b = b := by
  rw [commonBase, if_pos h]

theorem valid_commonBase (ha : a.valid = true) (hb : b.valid = true) :
    (T.commonBase a b).valid = (T.sameOrDerived a b || T.sameOrDerived b a) := by
  unfold commonBase
  cases T.sameOrDerived a b <;> cases T.sameOrDerived b a <;> simp [ha, hb]

theorem valid_baseReference (t u : Ty ι) :
    (T.baseReference t u).valid = (T.commonBase t.object u.object).valid := by
  unfold baseReference
  split
  · exact Ty.valid_build _ _ _
  · exact Ty.valid_build _ _ _

/-- Both of two related objects are their common base or derive from it. -/
theorem sameOrDerived_commonBase (h : T.sameOrDerived a b = true ∨ T.sameOrDerived b a = true) :
    (T.commonBase a b = a ∨ T.commonBase a b = b) ∧ T.sameOrDerived a (T.commonBase a b) = true ∧
      T.sameOrDerived b (T.commonBase a b) = true := by
  unfold commonBase
  split
  · rename_i derived
    exact ⟨Or.inr rfl, derived, T.sameOrDerived_self b⟩
  · rename_i underived
    have derived : T.sameOrDerived b a = true := h.resolve_left underived
    rw [if_pos derived]
    exact ⟨Or.inl rfl, T.sameOrDerived_self a, derived⟩

theorem derives_of_valid_commonBase (h : (T.commonBase a b).valid = true) :
    T.sameOrDerived a (T.commonBase a b) = true ∧ T.sameOrDerived b (T.commonBase a b) = true := by
  refine (sameOrDerived_commonBase ?_).2
  by_contra unrelated
  rw [not_or] at unrelated
  simp [commonBase, unrelated] at h

/-- An operand is compatible with references to its bases. -/
theorem refCompatible_build {s : Ty ι} {o : Object ι} {c : Cv} {k : RefKind} (ho : o.valid = true)
    (derived : T.sameOrDerived s.object o = true) (covers : c.covers s.cv = true) :
    T.refCompatible s (.build o c k) = true := by
  apply refCompatible_of_covers
  · rwa [Ty.object_build]
  · rwa [Ty.cv_build_of_valid ho]

/-- Two glvalues of one spelling are the answer as they are. -/
theorem conditional_self_of_isReference (valid : t.valid = true) (reference : t.isReference = true) :
    T.conditional t t = t.canon := by
  have needs : T.needsConversion t t = false := by
    simp [needsConversion, sameReferent]
  rw [conditional, if_pos (by simp [valid]), if_neg (by simp [needs])]
  exact finish_of_glvalue reference rfl (sameReferent_self t)

section PartialOrder

variable (acyclic : T.Acyclic) (distinct : T.Distinct)

section Distinct

include distinct

/-- Only related operands have a reference for an answer. -/
theorem sameOrDerived_of_conditional (valid : (T.conditional t u).valid = true)
    (reference : (T.conditional t u).isReference = true) :
    T.sameOrDerived t.object u.object = true ∨ T.sameOrDerived u.object t.object = true := by
  rcases conditional_meets distinct valid with meets | meets
  · exact Or.inl (sameOrDerived_of_bindsDirectly (meets.bindsDirectly distinct reference).1)
  · exact Or.inr (sameOrDerived_of_bindsDirectly (meets.bindsDirectly distinct reference).1)

end Distinct

include acyclic distinct

theorem commonBase_comm (a b : Object ι) : T.commonBase a b = T.commonBase b a := by
  by_cases hab : T.sameOrDerived a b = true
  · by_cases hba : T.sameOrDerived b a = true
    · rw [sameOrDerived_antisymm acyclic distinct hab hba]
    · simp [commonBase, hab, hba]
  · by_cases hba : T.sameOrDerived b a = true
    · simp [commonBase, hab, hba]
    · simp [commonBase, hab, hba]

/-- Of lvalues of one qualification that of the derived class binds to that of the base, and not the other way. -/
theorem conditional_of_sameOrDerived (ha : T.isClass a = true) (hb : T.isClass b = true) (c : Cv)
    (derived : T.sameOrDerived a b = true) :
    T.conditional (.build a c .lvalue) (.build b c .lvalue) = .build b c .lvalue := by
  have hva := T.valid_of_isClass ha
  have hvb := T.valid_of_isClass hb
  have hkind {o : Object ι} (ho : o.valid = true) : (Ty.build o c .lvalue).kind = .lvalue :=
    Ty.kind_build_of_valid ho c .lvalue
  by_cases same : a = b
  · have reference : (Ty.build b c .lvalue).isReference = true := by
      rw [Ty.isReference, hkind hvb]
      rfl
    rw [same, conditional_self_of_isReference (by rwa [Ty.valid_build]) reference, Ty.canon_build]
  · have hclass : T.anyClass (.build a c .lvalue) (.build b c .lvalue) = true := by
      simp [anyClass, ha]
    have needs := needsConversion_of_anyClass distinct (by simpa using same) hclass
    have binds : T.bindsDirectly (.build a c .lvalue) (.build b c .lvalue) = true := by
      simp [bindsDirectly, refCompatible, refRelated, Ty.isLvalue, hkind hva, hkind hvb, derived,
        Ty.cv_build_of_valid hva, Ty.cv_build_of_valid hvb]
    have oneWay : T.converts (.build b c .lvalue) (.build a c .lvalue) = false := by
      by_contra hback
      have related : T.classesRelated (.build b c .lvalue) (.build a c .lvalue) = true := by
        simp [classesRelated, ha, hb, derived]
      have h := sameOrDerived_of_converts related (by simpa using hback)
      rw [Ty.object_build, Ty.object_build] at h
      exact same (sameOrDerived_antisymm acyclic distinct derived h)
    rw [conditional_eq_convertedTo (by rwa [Ty.valid_build]) (by rwa [Ty.valid_build]) needs
      (by simp [converts, binds]) oneWay, convertedTo, if_pos binds, Ty.canon_build]

/-- The lvalue rule on two classes refers to the more basic one. -/
theorem lvalueReference_of_isClass {x y : Ty ι} (hx : T.isClass x.object = true) (hy : T.isClass y.object = true)
    (hkx : x.kind = .none) (hky : y.kind = .none) :
    T.lvalueReference x y = .build (T.commonBase x.object y.object) (x.cv.union y.cv) .lvalue := by
  have hvx : x.object.valid = true := T.valid_of_isClass hx
  have hvy : y.object.valid = true := T.valid_of_isClass hy
  have answer {o : Object ι} (ho : o.valid = true) : (Ty.build o (x.cv.union y.cv) .lvalue).isReference = true := by
    rw [Ty.isReference, Ty.kind_build_of_valid ho]
    rfl
  rw [lvalueReference_eq hvx hvy hkx hky, conditional_comm distinct]
  dsimp only
  by_cases hxy : T.sameOrDerived x.object y.object = true
  · rw [conditional_of_sameOrDerived acyclic distinct hx hy _ hxy, if_pos (answer hvy),
      commonBase_of_sameOrDerived hxy]
  · by_cases hyx : T.sameOrDerived y.object x.object = true
    · rw [conditional_comm distinct, conditional_of_sameOrDerived acyclic distinct hy hx _ hyx,
        if_pos (answer hvx), commonBase_comm acyclic distinct, commonBase_of_sameOrDerived hyx]
    · -- Neither derives from the other, so a reference could only be a failure, and that is the sentinel.
      have hbase : T.commonBase x.object y.object = .nonesuch := by
        simp [commonBase, hxy, hyx]
      rw [hbase, Ty.build_nonesuch, if_neg]
      intro reference
      have hvalid : (T.conditional (.build x.object (x.cv.union y.cv) .lvalue)
          (.build y.object (x.cv.union y.cv) .lvalue)).valid = true := by
        by_contra invalid
        rw [(canonical_conditional _ _).eq_nonesuch (by simpa using invalid)] at reference
        contradiction
      have related := sameOrDerived_of_conditional distinct hvalid reference
      rw [Ty.object_build, Ty.object_build] at related
      exact related.elim hxy hyx

section Classes

variable (ht : T.isClass t.object = true) (hu : T.isClass u.object = true)

include ht hu

theorem lvalueReference_removeReference :
    T.lvalueReference t.removeReference u.removeReference =
      .build (T.commonBase t.object u.object) (t.cv.union u.cv) .lvalue := by
  have hvt : t.valid = true := T.valid_of_isClass ht
  have hvu : u.valid = true := T.valid_of_isClass hu
  rw [lvalueReference_of_isClass acyclic distinct (by simpa using ht) (by simpa using hu)
    (Ty.kind_removeReference t) (Ty.kind_removeReference u), Ty.object_removeReference,
    Ty.object_removeReference, Ty.cv_removeReference_of_valid hvt, Ty.cv_removeReference_of_valid hvu]

theorem lvalueReference_addConst :
    T.lvalueReference t.removeReference u.removeReference.addConst =
      .build (T.commonBase t.object u.object) (t.cv.union (Cv.const.union u.cv)) .lvalue := by
  have hvt : t.valid = true := T.valid_of_isClass ht
  have hvu : u.valid = true := T.valid_of_isClass hu
  have hreferent := referent_addConst hvu
  have hcv : u.removeReference.addConst.cv = Cv.const.union u.cv := by
    rw [Ty.cv_addConst_of_valid (by rwa [Ty.valid_removeReference]) (Ty.kind_removeReference u),
      Ty.cv_removeReference_of_valid hvu]
  rw [lvalueReference_of_isClass acyclic distinct (by simpa using ht) (by simpa using hu)
    (Ty.kind_removeReference t) hreferent.kind_eq, Ty.object_removeReference, hreferent.object_eq,
    Ty.cv_removeReference_of_valid hvt, hcv]

theorem simpleReference_of_lvalues (hkt : t.kind = .lvalue) (hku : u.kind = .lvalue) :
    T.simpleReference t u = .build (T.commonBase t.object u.object) (t.cv.union u.cv) .lvalue := by
  simp only [simpleReference, hkt, hku]
  exact lvalueReference_removeReference acyclic distinct ht hu

/-- Rvalues of both operands always convert to the rvalue form of the lvalue answer. -/
theorem simpleReference_of_rvalues (hkt : t.kind = .rvalue) (hku : u.kind = .rvalue) :
    T.simpleReference t u = .build (T.commonBase t.object u.object) (t.cv.union u.cv) .rvalue := by
  have hvt : t.valid = true := T.valid_of_isClass ht
  have hvu : u.valid = true := T.valid_of_isClass hu
  have answer := lvalueReference_removeReference acyclic distinct ht hu
  cases hbase : (T.commonBase t.object u.object).valid with
  | false =>
      simp only [simpleReference, hkt, hku, rvalueReference, answer, Ty.rvalue_build]
      rw [Object.valid_eq_false_iff.1 hbase, Ty.build_nonesuch, ite_self]
  | true =>
      obtain ⟨hleft, hright⟩ := derives_of_valid_commonBase hbase
      have binds {s : Ty ι} (hs : s.valid = true) (hkind : s.kind = .rvalue)
          (derived : T.sameOrDerived s.object (T.commonBase t.object u.object) = true)
          (covers : (t.cv.union u.cv).covers s.cv = true) :
          T.convertible s (Ty.build (T.commonBase t.object u.object) (t.cv.union u.cv) .lvalue).rvalue = true := by
        rw [Ty.rvalue_build]
        apply convertible_of_isXvalue hs
        · rwa [Ty.valid_build]
        · rw [Ty.isXvalue_iff, Ty.kind_build_of_valid hbase]
        · exact refCompatible_build hbase derived covers
        · rw [Ty.isLvalue, hkind]
          rfl
      rw [simpleReference_eq_rvalue hvt hvu hkt hku answer (binds hvt hkt hleft (Cv.covers_union_left _ _))
        (binds hvu hku hright (Cv.covers_union_right _ _)), Ty.rvalue_build]

/-- The rvalue of a mixed pair binds to the reference only if that is exactly `const`. -/
theorem simpleReference_of_mixed (hkt : t.kind = .lvalue) (hku : u.kind = .rvalue) :
    T.simpleReference t u =
      if t.cv.isVolatile || u.cv.isVolatile then .nonesuch
      else .build (T.commonBase t.object u.object) .const .lvalue := by
  have hvt : t.valid = true := T.valid_of_isClass ht
  have hvu : u.valid = true := T.valid_of_isClass hu
  simp only [simpleReference, hkt, hku, mixedReference, lvalueReference_addConst acyclic distinct ht hu,
    Ty.rvalue_removeReference hvu hku]
  cases hbase : (T.commonBase t.object u.object).valid with
  | false => rw [Object.valid_eq_false_iff.1 hbase, Ty.build_nonesuch, Ty.build_nonesuch, ite_self, ite_self]
  | true =>
      obtain ⟨-, hright⟩ := derives_of_valid_commonBase hbase
      have lvalue : (Ty.build (T.commonBase t.object u.object)
          (t.cv.union (Cv.const.union u.cv)) .lvalue).isLvalue = true := by
        rw [Ty.isLvalue_iff, Ty.kind_build_of_valid hbase]
      by_cases hvolatile : (t.cv.isVolatile || u.cv.isVolatile) = true
      · rw [if_pos hvolatile, if_neg]
        intro converts
        have const := cv_eq_const_of_convertible converts lvalue (by simp [Ty.isLvalue, hku])
        rw [Ty.cv_build_of_valid hbase] at const
        have steady := congrArg Cv.isVolatile const
        simp only [Cv.union, Cv.const, Bool.false_or] at steady
        rw [steady] at hvolatile
        contradiction
      · have const : t.cv.union (Cv.const.union u.cv) = .const := by
          simp only [Bool.not_eq_true, Bool.or_eq_false_iff] at hvolatile
          simp [Cv.union, Cv.const, hvolatile]
        rw [if_neg hvolatile, const, if_pos]
        apply convertible_of_isLvalue
        · exact hvu
        · rwa [Ty.valid_build]
        · rwa [const] at lvalue
        · apply refCompatible_build hbase hright
          rw [← const]
          exact Cv.covers_trans (Cv.covers_union_right _ _) (Cv.covers_union_right _ _)
        · exact Or.inr (Ty.cv_build_of_valid hbase _ _)

/-- The simple rules refer to the common base, unless an rvalue reference to something volatile had to bind as an
lvalue. -/
theorem simpleReference_eq_baseReference (reference : t.isReference = true) (reference' : u.isReference = true) :
    T.simpleReference t u =
      if t.kind ≠ u.kind ∧ (t.cv.isVolatile = true ∨ u.cv.isVolatile = true) then .nonesuch
      else T.baseReference t u := by
  have mixed {x y : Ty ι} (hx : T.isClass x.object = true) (hy : T.isClass y.object = true)
      (hkx : x.kind = .lvalue) (hky : y.kind = .rvalue) :
      T.simpleReference x y =
        if x.kind ≠ y.kind ∧ (x.cv.isVolatile = true ∨ y.cv.isVolatile = true) then .nonesuch
        else T.baseReference x y := by
    have hkind : x.kind ≠ y.kind := by simp [hkx, hky]
    rw [simpleReference_of_mixed acyclic distinct hx hy hkx hky, baseReference, if_neg hkind]
    by_cases hvolatile : x.cv.isVolatile = true ∨ y.cv.isVolatile = true
    · rw [if_pos (by simpa using hvolatile), if_pos ⟨hkind, hvolatile⟩]
    · have const : Cv.const.union (x.cv.union y.cv) = .const := by
        simp only [not_or, Bool.not_eq_true] at hvolatile
        simp [Cv.union, Cv.const, hvolatile]
      rw [if_neg (by simpa using hvolatile), if_neg fun h => hvolatile h.2, const]
  rcases Ty.isReference_iff.1 reference with hkt | hkt
  · rcases Ty.isReference_iff.1 reference' with hku | hku
    · rw [simpleReference_of_lvalues acyclic distinct ht hu hkt hku]
      simp [baseReference, hkt, hku]
    · exact mixed ht hu hkt hku
  · rcases Ty.isReference_iff.1 reference' with hku | hku
    · have hbase : T.baseReference u t = T.baseReference t u := by
        simp [baseReference, hkt, hku, commonBase_comm acyclic distinct u.object, Cv.union_comm u.cv]
      rw [simpleReference_comm distinct, mixed hu ht hku hkt, hbase]
      simp [hkt, hku, or_comm]
    · rw [simpleReference_of_rvalues acyclic distinct ht hu hkt hku]
      simp [baseReference, hkt, hku]

end Classes

/-- Two references to classes have a simple common reference if one class is the other or derives from it, and no mixed
pair is volatile. It refers to the more basic class. -/
theorem simpleReference_classes (t u : Ty ι) (ht : T.isClass t.object = true) (hu : T.isClass u.object = true)
    (reference : t.isReference = true) (reference' : u.isReference = true) :
    ((T.simpleReference t u).valid = true ↔
        (T.Derives t.object u.object ∨ T.Derives u.object t.object) ∧
          (t.kind ≠ u.kind → t.cv.isVolatile = false ∧ u.cv.isVolatile = false)) ∧
      ((T.simpleReference t u).valid = true →
        ∃ o, (o = t.object ∨ o = u.object) ∧ T.Derives t.object o ∧ T.Derives u.object o ∧
          (t.kind = .lvalue → u.kind = .lvalue →
            T.simpleReference t u = .build o (t.cv.union u.cv) .lvalue) ∧
          (t.kind = .rvalue → u.kind = .rvalue →
            T.simpleReference t u = .build o (t.cv.union u.cv) .rvalue) ∧
          (t.kind ≠ u.kind →
            T.simpleReference t u = .build o (Cv.const.union (t.cv.union u.cv)) .lvalue)) := by
  have answer := simpleReference_eq_baseReference acyclic distinct ht hu reference reference'
  by_cases hmixed : t.kind ≠ u.kind ∧ (t.cv.isVolatile = true ∨ u.cv.isVolatile = true)
  · rw [if_pos hmixed] at answer
    have invalid : (T.simpleReference t u).valid = false := by rw [answer, Ty.valid_nonesuch]
    refine ⟨⟨fun valid => ?_, ?_⟩, fun valid => ?_⟩
    · rw [invalid] at valid
      contradiction
    · rintro ⟨-, steady⟩
      obtain ⟨hsteady, hsteady'⟩ := steady hmixed.1
      rw [hsteady, hsteady'] at hmixed
      simp at hmixed
    · rw [invalid] at valid
      contradiction
  · rw [if_neg hmixed] at answer
    have related : (T.simpleReference t u).valid = true ↔
        T.sameOrDerived t.object u.object = true ∨ T.sameOrDerived u.object t.object = true := by
      rw [answer, valid_baseReference, valid_commonBase (T.valid_of_isClass ht) (T.valid_of_isClass hu),
        Bool.or_eq_true]
    constructor
    · rw [related, sameOrDerived_iff acyclic distinct, sameOrDerived_iff acyclic distinct]
      refine ⟨fun h => ⟨h, fun hkind => ?_⟩, And.left⟩
      simpa [hkind] using hmixed
    · intro valid
      obtain ⟨hobject, hleft, hright⟩ := sameOrDerived_commonBase (related.1 valid)
      refine ⟨_, hobject, (sameOrDerived_iff acyclic distinct).1 hleft,
        (sameOrDerived_iff acyclic distinct).1 hright, ?_, ?_, ?_⟩
      · intro hkt hku
        rw [answer, baseReference, if_pos (hkt.trans hku.symm), hkt]
      · intro hkt hku
        rw [answer, baseReference, if_pos (hkt.trans hku.symm), hkt]
      · intro hkind
        rw [answer, baseReference, if_neg hkind]

end PartialOrder

end Table

namespace Catalogue

/-- An lvalue of a class and a `const` rvalue of a derived one, whatever entry the classes have for each other. -/
theorem simpleReference_classes_crParent_crChild :
    let t := lvalue .crParent
    let u := (value .crChild).addConst.rvalue
    (separated.isClass t.object = true ∧ separated.isClass u.object = true) ∧
      (t.isReference = true ∧ u.isReference = true) ∧ (separated.commonReferenceEntry t u).valid = true ∧
      separated.simpleReference t u = constLvalue .crParent ∧
      ((separated.Derives t.object u.object ∨ separated.Derives u.object t.object) ∧
        (t.kind ≠ u.kind → t.cv.isVolatile = false ∧ u.cv.isVolatile = false)) ∧
      ∃ o, (o = t.object ∨ o = u.object) ∧ separated.Derives t.object o ∧ separated.Derives u.object o ∧
        separated.simpleReference t u = .build o (Cv.const.union (t.cv.union u.cv)) .lvalue := by
  intro t u
  have ht : separated.isClass t.object = true := by decide
  have hu : separated.isClass u.object = true := by decide
  have hreference : t.isReference = true ∧ u.isReference = true := by decide
  have hvalue : separated.simpleReference t u = constLvalue .crParent := by decide
  obtain ⟨hvalid, hanswer⟩ :=
    Table.simpleReference_classes separated_acyclic separated_distinct t u ht hu hreference.1 hreference.2
  have valid : (separated.simpleReference t u).valid = true := by
    rw [hvalue]
    decide
  obtain ⟨o, hobject, hleft, hright, -, -, hmixed⟩ := hanswer valid
  exact ⟨⟨ht, hu⟩, hreference, by decide, hvalue, hvalid.1 valid, o, hobject, hleft, hright, hmixed (by decide)⟩

end Catalogue

end Concord
