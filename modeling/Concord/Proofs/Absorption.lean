import Concord.Catalogue.Numbered
import Concord.Pack
import Concord.Proofs.Canonical
import Concord.Proofs.ClassReference
import Concord.Proofs.Sharing

/-!
# A common reference absorbs its operands

The common reference of either operand and their common reference is that common reference again, though it may come from
another rule. The simple rules ask about the same two lvalues again. An operand that the conditional operator converted is
converted again, and nothing is converted back, because a value converts to nothing that its source does not convert to.
Where only the common type answers, an operand would lose qualifiers on the way to its base, and it would lose them on the
way to the bare base as well.
-/

namespace Concord

namespace Table

variable {ι : Type} {T : Table ι} {t u r s a b : Ty ι}

variable (T) in
/-- The common reference of `r` and either operand is `r` again. -/
structure Absorbs (t u r : Ty ι) : Prop where
  left : T.commonReference t r = r
  right : T.commonReference u r = r

theorem Absorbs.symm (h : T.Absorbs t u r) : T.Absorbs u t r := ⟨h.right, h.left⟩

/-! ## References -/

theorem lvalueReference_self (ht : t.valid = true) :
    T.lvalueReference t.removeReference t.removeReference = .build t.object t.cv .lvalue := by
  have hvalid : t.removeReference.valid = true := by rwa [Ty.valid_removeReference]
  have hkind := Ty.kind_build_of_valid (c := t.cv) (k := .lvalue) ht
  have reference : (Ty.build t.object t.cv .lvalue).isReference = true := by
    rw [Ty.isReference, hkind]
    rfl
  rw [lvalueReference_eq hvalid hvalid (Ty.kind_removeReference t) (Ty.kind_removeReference t)]
  dsimp only
  rw [Cv.union_eq_right_of_covers (Cv.covers_refl _), Ty.cv_removeReference_of_valid ht, Ty.object_removeReference,
    conditional_self_of_isReference (by rwa [Ty.valid_build]) reference, Ty.canon_build, if_pos reference]

/-- A reference and itself have it for their common reference. -/
theorem commonReference_self (valid : t.valid = true) (reference : t.isReference = true) :
    T.commonReference t t = t := by
  have hcanon := Ty.canon_of_isReference valid reference
  have hsimple : T.simpleReference t t = t := by
    rcases Ty.isReference_iff.1 reference with hkind | hkind
    · rw [Ty.canon, hkind] at hcanon
      simp only [simpleReference, hkind]
      rw [lvalueReference_self valid, hcanon]
    · rw [Ty.canon, hkind] at hcanon
      have hrvalue : (Ty.build t.object t.cv .lvalue).rvalue = t := by rw [Ty.rvalue_build, hcanon]
      have binds : T.convertible t (Ty.build t.object t.cv .lvalue).rvalue = true := by
        rw [hrvalue]
        exact convertible_self_of_isXvalue valid (Ty.isXvalue_iff.2 hkind)
      rw [simpleReference_eq_rvalue valid valid hkind hkind (lvalueReference_self valid) binds binds, hrvalue]
  rw [commonReference_of_simpleReference valid valid (by rwa [hsimple]), hsimple]

section Distinct

variable (distinct : T.Distinct)

include distinct

/-- A reference that the conditional operator answers is an operand, so the operator is asked about that operand and
itself, or the same again. -/
theorem conditional_absorb_of_isReference (valid : (T.conditional t u).valid = true)
    (reference : (T.conditional t u).isReference = true) :
    T.conditional t (T.conditional t u) = T.conditional t u := by
  obtain ⟨ht, hu⟩ := T.valid_of_conditional valid
  have hoperand {x : Ty ι} (hx : x.valid = true) (h : T.conditional t u = x.canon) :
      x.isReference = true ∧ x.canon = x := by
    have hreference : x.isReference = true := by
      rwa [h, Ty.isReference, Ty.kind_canon_of_valid hx] at reference
    exact ⟨hreference, Ty.canon_of_isReference hx hreference⟩
  rcases conditional_eq_canon distinct valid reference with h | h
  · obtain ⟨hreference, hcanon⟩ := hoperand ht h
    rw [h, hcanon, conditional_self_of_isReference ht hreference, hcanon]
  · obtain ⟨-, hcanon⟩ := hoperand hu h
    rw [h, hcanon]
    exact h.trans hcanon

/-- The lvalue rule on its own answer and the referent of an operand asks about the same lvalues again. -/
theorem lvalueReference_absorb (ht : t.valid = true) (hu : u.valid = true) (ha : Referent t a) (hb : Referent u b)
    (valid : (T.lvalueReference a b).valid = true) :
    T.lvalueReference a (T.lvalueReference a b).removeReference = T.lvalueReference a b := by
  obtain ⟨hsource, reference⟩ := lvalueReference_source distinct (ha.valid ht) (hb.valid hu) ha.kind_eq hb.kind_eq valid
  obtain ⟨hcv, hkind⟩ :=
    decoration_lvalueReference distinct (ha.valid ht) (hb.valid hu) ha.kind_eq hb.kind_eq valid
  have habsorb := conditional_absorb_of_isReference distinct (hsource ▸ valid) (hsource ▸ reference)
  rw [← hsource] at habsorb
  generalize T.lvalueReference a b = l at *
  have hl : Ty.build l.object l.cv .lvalue = l := by
    rw [← hkind]
    exact Ty.canon_of_isReference valid reference
  have hunion : a.cv.union l.removeReference.cv = l.cv := by
    rw [Ty.cv_removeReference_of_valid valid, hcv]
    exact Cv.union_eq_right_of_covers (Cv.covers_union_left _ _)
  rw [lvalueReference_eq (ha.valid ht) (by rwa [Ty.valid_removeReference]) ha.kind_eq (Ty.kind_removeReference l)]
  dsimp only
  rw [hunion, Ty.object_removeReference, hl, conditional_comm distinct, hcv, habsorb, if_pos reference]

theorem lvalueReference_absorb_right (ht : t.valid = true) (hu : u.valid = true) (ha : Referent t a)
    (hb : Referent u b) (valid : (T.lvalueReference a b).valid = true) :
    T.lvalueReference b (T.lvalueReference a b).removeReference = T.lvalueReference a b := by
  rw [lvalueReference_comm distinct a b] at valid ⊢
  exact lvalueReference_absorb distinct hu ht hb ha valid

/-- An answer of the simple rules is their answer again for either operand and itself. -/
theorem Simple.absorbs (ht : t.valid = true) (hu : u.valid = true) (simple : T.Simple t u r) : T.Absorbs t u r := by
  have hleft := referent_removeReference ht
  have hright := referent_removeReference hu
  have joins := simple.joins distinct ht hu
  have hanswer {x : Ty ι} (hx : x.valid = true) (hr : r.valid = true) (h : T.simpleReference x r = r) :
      T.commonReference x r = r := by
    rw [commonReference_of_simpleReference hx hr (by rwa [h]), h]
  cases simple with
  | lvalues hkt hku valid =>
      have hkind := Ty.isLvalue_iff.1 (refCompatible_lvalueReference distinct ht hu hleft hright valid).2.2
      constructor
      · apply hanswer ht valid
        simp only [simpleReference, hkt, hkind]
        exact lvalueReference_absorb distinct ht hu hleft hright valid
      · apply hanswer hu valid
        simp only [simpleReference, hku, hkind]
        exact lvalueReference_absorb_right distinct ht hu hleft hright valid
  | rvalues hkt hku valid =>
      have hr := (Ty.valid_rvalue _).trans valid
      have hkind := Ty.kind_rvalue_of_valid valid
      -- The answer binds to itself, and each operand to it, as the operands are joined by it.
      have hself := convertible_self_of_isXvalue (T := T) hr (Ty.isXvalue_iff.2 hkind)
      constructor
      · apply hanswer ht hr
        refine simpleReference_eq_rvalue ht hr hkt hkind ?_ (joins.convertible ht hr) hself
        rw [Ty.removeReference_rvalue valid]
        exact lvalueReference_absorb distinct ht hu hleft hright valid
      · apply hanswer hu hr
        refine simpleReference_eq_rvalue hu hr hku hkind ?_ (joins.symm.convertible hu hr) hself
        rw [Ty.removeReference_rvalue valid]
        exact lvalueReference_absorb_right distinct ht hu hleft hright valid
  | mixed hkt hku valid converts =>
      have hconst := referent_addConst hu
      have hkind := Ty.isLvalue_iff.1 (refCompatible_lvalueReference distinct ht hu hleft hconst valid).2.2
      constructor
      · apply hanswer ht valid
        simp only [simpleReference, hkt, hkind]
        exact lvalueReference_absorb distinct ht hu hleft hconst valid
      · apply hanswer hu valid
        have h := lvalueReference_absorb_right distinct ht hu hleft hconst valid
        simp only [simpleReference, hku, hkind, mixedReference]
        rw [lvalueReference_comm distinct, h, if_pos converts]

end Distinct

/-! ## Values -/

/-- Qualifiers alone ask for a conversion between references only. -/
theorem needsConversion_prvalue (t u : Ty ι) :
    T.needsConversion t (T.prvalue u) = (!T.sameReferent t (T.prvalue u) && T.anyClass t u) := by
  cases h : t.kind <;> simp [needsConversion, anyClass, Ty.isReference, h, RefKind.isReference]

/-- An operand and its own value meet in the value. -/
theorem conditional_prvalue_self (valid : t.valid = true) : T.conditional t (T.prvalue t) = T.prvalue t := by
  have needs : T.needsConversion t (T.prvalue t) = false := by
    rw [needsConversion_prvalue]
    cases hclass : T.isClass t.object with
    | true => simp [sameReferent, cv_prvalue_of_isClass hclass]
    | false => simp [anyClass, hclass]
  rw [conditional, if_pos (by simp [valid]), if_neg (by simp [needs]), finish_of_sameValue]
  · cases h : t.kind <;> simp [Ty.isReference, h, RefKind.isReference]
  · rw [prvalue_prvalue]
    exact T.isSame_self _

section Distinct

variable (distinct : T.Distinct)

include distinct

/-- The value of a class keeps its qualifiers, and no number is a class. -/
theorem sameReferent_prvalue (hclass : T.anyClass t u = true) :
    T.sameReferent t (T.prvalue u) = T.sameReferent t u := by
  cases hu : T.isClass u.object with
  | true => simp [sameReferent, cv_prvalue_of_isClass hu]
  | false =>
      have differ : t.object ≠ u.object := by
        intro same
        simp [anyClass, same, hu] at hclass
      simp [sameReferent, distinct.sameObject_eq_false differ]

/-- An operand that is converted to the value of the other is converted to that value. -/
theorem conditional_prvalue_of_converts (ht : t.valid = true) (hu : u.valid = true)
    (steady : T.volatileClass u = false) (needs : T.needsConversion t u = true)
    (value : T.prvalueConverts t u = true) (oneWay : T.converts u t = false) :
    T.conditional t (T.prvalue u) = T.prvalue u := by
  cases hclass : T.anyClass t u with
  | true =>
      have hneeds : T.needsConversion t (T.prvalue u) = true := by
        rw [needsConversion_prvalue, sameReferent_prvalue distinct hclass,
          sameReferent_eq_false_of_needsConversion needs, hclass]
        rfl
      have hback : T.converts (T.prvalue u) t = false := by
        by_contra h
        rw [converts_of_converts_prvalue hu ht steady (by rwa [anyClass_comm]) (by simpa using h)] at oneWay
        contradiction
      rw [conditional_eq_convertedTo ht (by rwa [valid_prvalue]) hneeds (by rwa [converts_prvalue]) hback]
      exact convertedTo_prvalue t u
  | false =>
      -- Two references to one number that differ in qualifiers have one value.
      simp only [needsConversion, hclass, Bool.and_false, Bool.false_or, Bool.and_eq_true, distinct.sameObject_iff]
        at needs
      simp only [anyClass, Bool.or_eq_false_iff] at hclass
      rw [← prvalue_eq_of_object_eq needs.2.1 hclass.1]
      exact conditional_prvalue_self ht

/-- A number of a rank that another number does not exceed is what the two meet in. -/
theorem conditional_plain_of_isArithmetic {o : Object ι} (ht : T.isArithmetic t.object = true)
    (ho : T.isArithmetic o = true) (higher : T.usualArithmetic t.object o = o) :
    T.conditional t (.plain o) = .plain o := by
  by_cases same : t.object = o
  · have hvalue := prvalue_of_isClass_eq_false (T.isClass_eq_false_of_isArithmetic ht)
    rw [← same, ← hvalue]
    exact conditional_prvalue_self (T.valid_of_isArithmetic ht)
  · rw [conditional_of_isArithmetic (u := .plain o) distinct same ht ho]
    exact congrArg Ty.plain higher

/-- The conditional operator absorbs a value that it answers. -/
theorem Meets.conditional_absorb (ht : t.valid = true) (hu : u.valid = true) (steady : T.volatileClass u = false)
    (meets : T.Meets t u r) (hr : r.isReference = false) : T.conditional t r = r ∧ T.conditional u r = r := by
  cases meets with
  | glvalue reference =>
      rw [Ty.isReference, Ty.kind_canon_of_valid ht, ← Ty.isReference, reference] at hr
      contradiction
  | bind _ binds =>
      rw [Ty.isReference, Ty.kind_canon_of_valid hu, ← Ty.isReference, isReference_of_bindsDirectly binds] at hr
      contradiction
  | value needs _ value oneWay =>
      exact ⟨conditional_prvalue_of_converts distinct ht hu steady needs value oneWay, conditional_prvalue_self hu⟩
  | sameValue same =>
      have hvalue := distinct.eq_of_isSame (canonical_prvalue t) (canonical_prvalue u) same
      refine ⟨conditional_prvalue_self ht, ?_⟩
      rw [hvalue]
      exact conditional_prvalue_self hu
  | number _ hta hua =>
      have hanswer := T.isArithmetic_usualArithmetic t.object u.object
      refine ⟨conditional_plain_of_isArithmetic distinct hta hanswer (T.usualArithmetic_absorb _ _), ?_⟩
      apply conditional_plain_of_isArithmetic distinct hua hanswer
      rw [T.usualArithmetic_comm t.object]
      exact T.usualArithmetic_absorb _ _

end Distinct

section EntryFree

variable (distinct : T.Distinct) (free : T.EntryFree)

include free

/-- The simple rules ask for two references. -/
theorem commonReference_of_value (ht : t.valid = true) (hr : r.valid = true) (value : r.isReference = false) :
    T.commonReference t r = (T.conditional t r).orElse fun _ => T.commonType t r := by
  apply commonReference_of_invalid_simpleReference (free.unspecialized t r) ht hr
  have hkind := Ty.isReference_eq_false_iff.1 value
  cases h : t.kind <;> simp [simpleReference, hkind, h]

include distinct

/-- A reference that the conditional operator answers is an operand, and a value is answered again. -/
theorem Meets.absorbs (ht : t.valid = true) (hu : u.valid = true) (steady : T.volatileClass u = false)
    (meets : T.Meets t u r) (hr : r.valid = true) (answer : T.commonReference t u = r) : T.Absorbs t u r := by
  cases reference : r.isReference with
  | true =>
      obtain ⟨binds, hcanon⟩ := meets.bindsDirectly distinct reference
      have hreference := isReference_of_bindsDirectly binds
      rw [Ty.canon_of_isReference hu hreference] at hcanon
      rw [hcanon] at answer ⊢
      exact ⟨answer, commonReference_self hu hreference⟩
  | false =>
      obtain ⟨hleft, hright⟩ := meets.conditional_absorb distinct ht hu steady reference
      constructor
      · rw [commonReference_of_value free ht hr reference, hleft, Ty.orElse_of_valid hr]
      · rw [commonReference_of_value free hu hr reference, hright, Ty.orElse_of_valid hr]

end EntryFree

/-! ## Decayed values -/

variable (T) in
/-- The class of `t` strictly derives from that of `u`, which lacks a qualifier of `t`. -/
structure LosesQualifiers (t u : Ty ι) : Prop where
  related : T.classesRelated t u = true
  differ : t.object ≠ u.object
  derived : T.sameOrDerived t.object u.object = true
  lost : u.cv.covers t.cv = false

section PartialOrder

variable (acyclic : T.Acyclic) (distinct : T.Distinct)

include distinct

/-- Two operands of one object meet if one has the qualifiers of the other. -/
theorem valid_conditional_of_object_eq (ht : t.valid = true) (same : t.object = u.object)
    (covers : u.cv.covers t.cv = true) : (T.conditional t u).valid = true := by
  have hu : u.valid = true := by rwa [Ty.valid, ← same]
  cases needs : T.needsConversion t u with
  | true =>
      have hto := (converts_iff_covers_of_object_eq same needs).2 covers
      have hback : T.converts u t = false := by
        rw [← Bool.not_eq_true, converts_iff_covers_of_object_eq same.symm (needsConversion_comm distinct t u ▸ needs)]
        intro hback
        have differ := sameReferent_eq_false_of_needsConversion needs
        simp [sameReferent, same, Cv.covers_antisymm hback covers] at differ
      rw [conditional_eq_convertedTo ht hu needs hto hback, Ty.valid, object_convertedTo]
      exact hu
  | false =>
      have hvalue : T.prvalue t = T.prvalue u := by
        cases hclass : T.isClass t.object with
        | true =>
            have hcv : t.cv = u.cv := by
              by_contra differ
              simp [needsConversion, sameReferent, anyClass, hclass, differ] at needs
            rw [prvalue, prvalue, same, hcv]
        | false => exact prvalue_eq_of_object_eq same hclass
      have hfinish : T.conditional t u = T.finish t u := by
        rw [conditional, if_pos (by simp [ht, hu]), if_neg (by simp [needs])]
      rw [hfinish, finish, hvalue, T.isSame_self]
      split
      · rwa [Ty.valid_canon]
      · rwa [if_pos rfl, valid_prvalue]

/-- Operands without an answer whose bare objects convert one way are classes, of which the base lacks a qualifier. -/
theorem losesQualifiers_of_converts_bare (ht : t.valid = true) (hu : u.valid = true)
    (invalid : (T.conditional t u).valid = false) (differ : t.object ≠ u.object)
    (hclass : T.anyClass t u = true) (steady : T.volatileClass t = false)
    (converts : T.converts (bare t.object) (bare u.object) = true)
    (oneWay : T.converts (bare u.object) (bare t.object) = false) : T.LosesQualifiers t u := by
  have hclass' : T.anyClass (bare t.object) (bare u.object) = true := by simpa [anyClass] using hclass
  have hrelated : T.classesRelated (bare t.object) (bare u.object) = T.classesRelated t u := by
    simp [classesRelated]
  have hback : T.converts u t = false := by
    rw [← Bool.not_eq_true]
    intro h
    rw [converts_bare hu ht (by rwa [anyClass_comm]) h] at oneWay
    contradiction
  have hto : T.converts t u = false := by
    rw [← Bool.not_eq_true]
    intro h
    rw [conditional_eq_convertedTo ht hu (needsConversion_of_anyClass distinct differ hclass) h hback, Ty.valid,
      object_convertedTo] at invalid
    rw [Ty.valid, invalid] at hu
    contradiction
  cases related : T.classesRelated t u with
  | true =>
      have derived : T.sameOrDerived t.object u.object = true := by
        simpa using sameOrDerived_of_converts (hrelated.trans related) converts
      refine ⟨related, differ, derived, ?_⟩
      rw [← Bool.not_eq_true]
      intro covers
      rw [(converts_iff_refCompatible related).2 (refCompatible_of_covers derived covers)] at hto
      contradiction
  | false =>
      have value := valueConvertible_of_converts (object_bare _).symm steady hclass' (hrelated.trans related) converts
      rw [object_bare] at value
      rw [converts_of_valueConvertible ht hu hclass related value] at hto
      contradiction

/-- Two operands without an answer have a common type if one of them loses qualifiers on the way to the other. -/
theorem Meets.losesQualifiers (ht : t.valid = true) (hu : u.valid = true) (hst : t.cv.isVolatile = false)
    (hsu : u.cv.isVolatile = false) (invalid : (T.conditional t u).valid = false)
    (meets : T.Meets (bare t.object) (bare u.object) r) : T.LosesQualifiers t u ∧ r.decay = .plain u.object := by
  have differ : t.object ≠ u.object := by
    intro same
    -- Of two qualifications without volatile one covers the other.
    have valid : (T.conditional t u).valid = true := by
      cases covers : u.cv.covers t.cv with
      | true => exact valid_conditional_of_object_eq distinct ht same covers
      | false =>
          have hcv := Cv.eq_unqualified_of_covers_eq_false covers hsu hst
          rw [conditional_comm distinct]
          exact valid_conditional_of_object_eq distinct hu same.symm (hcv ▸ Cv.covers_unqualified _)
    rw [invalid] at valid
    contradiction
  have hdiffer : (bare t.object).object ≠ (bare u.object).object := by simpa using differ
  have hloses (needs : T.needsConversion (bare t.object) (bare u.object) = true)
      (converts : T.converts (bare t.object) (bare u.object) = true)
      (oneWay : T.converts (bare u.object) (bare t.object) = false) : T.LosesQualifiers t u := by
    have hclass := anyClass_of_needsConversion distinct hdiffer needs
    exact losesQualifiers_of_converts_bare distinct ht hu invalid differ (by simpa [anyClass] using hclass)
      (volatileClass_of_cv hst) converts oneWay
  cases meets with
  | glvalue _ _ same =>
      simp only [sameReferent, Bool.and_eq_true, distinct.sameObject_iff] at same
      exact absurd same.1 hdiffer
  | bind needs binds oneWay =>
      refine ⟨hloses needs (by simp [converts, binds]) oneWay, ?_⟩
      rw [Ty.decay, Ty.object_canon, object_bare]
  | value needs converts _ oneWay =>
      refine ⟨hloses needs converts oneWay, ?_⟩
      rw [Ty.decay, object_prvalue, object_bare]
  | sameValue same =>
      simp only [isSame, object_prvalue, Bool.and_eq_true, distinct.sameObject_iff] at same
      exact absurd same.1 hdiffer
  | number _ hta hua =>
      rw [object_bare] at hta hua
      rw [conditional_of_isArithmetic distinct differ hta hua] at invalid
      have valid := T.valid_of_isArithmetic (T.isArithmetic_usualArithmetic t.object u.object)
      rw [Ty.valid, Ty.object, valid] at invalid
      contradiction

/-- A common type that stands in for a common reference is the base of the one operand, and the other loses its
qualifiers. -/
theorem losesQualifiers_of_commonType (unspecialized : T.Unspecialized t u) (hst : t.cv.isVolatile = false)
    (hsu : u.cv.isVolatile = false) (invalid : (T.conditional t u).valid = false)
    (valid : (T.commonType t u).valid = true) :
    (T.LosesQualifiers t u ∧ T.commonType t u = .plain u.object) ∨
      (T.LosesQualifiers u t ∧ T.commonType t u = .plain t.object) := by
  obtain ⟨ht, hu⟩ := valid_of_commonType valid
  rw [commonType_eq_commonByValue unspecialized.type ht hu, commonByValue_decay] at valid ⊢
  rcases conditional_meets distinct valid with meets | meets
  · exact Or.inl (meets.losesQualifiers distinct ht hu hst hsu invalid)
  · rw [conditional_comm distinct t u] at invalid
    exact Or.inr (meets.losesQualifiers distinct hu ht hsu hst invalid)

include acyclic

/-- Neither operand converts to the other: the base lacks a qualifier, and the way from the base is none. -/
theorem LosesQualifiers.conditional_eq_nonesuch (loses : T.LosesQualifiers t u) (ht : t.valid = true)
    (hu : u.valid = true) : T.conditional t u = .nonesuch := by
  have hrelated : T.classesRelated u t = true := by
    rw [classesRelated_comm]
    exact loses.related
  have hto : T.converts t u = false := by
    rw [← Bool.not_eq_true, converts_iff_refCompatible loses.related]
    simp [refCompatible, loses.lost]
  have hback : T.converts u t = false := by
    rw [← Bool.not_eq_true]
    intro h
    exact loses.differ (sameOrDerived_antisymm acyclic distinct loses.derived (sameOrDerived_of_converts hrelated h))
  rw [conditional_eq_finish ht hu hto hback]
  exact finish_eq_nonesuch (distinct.sameObject_eq_false loses.differ) (anyClass_of_classesRelated loses.related)

/-- The common type is bare as the base, so the other operand loses its qualifiers on the way there too. -/
theorem LosesQualifiers.absorbs (free : T.EntryFree) (loses : T.LosesQualifiers t u) (ht : t.valid = true)
    (hu : u.valid = true) (hst : t.cv.isVolatile = false) (hsu : u.cv.isVolatile = false)
    (answer : T.commonType t u = .plain u.object) : T.Absorbs t u (.plain u.object) := by
  have hcv := Cv.eq_unqualified_of_covers_eq_false loses.lost hsu hst
  have hvalid : (Ty.plain u.object).valid = true := hu
  constructor
  · have lost : (Ty.plain u.object).cv.covers t.cv = false := by
      have h := loses.lost
      rwa [hcv] at h
    have hloses : T.LosesQualifiers t (.plain u.object) :=
      { related := loses.related, differ := loses.differ, derived := loses.derived, lost := lost }
    have hcommon : T.commonType t (.plain u.object) = T.commonType t u := commonType_of_object_eq rfl rfl
    rw [commonReference_of_value free ht hvalid rfl, hloses.conditional_eq_nonesuch acyclic distinct ht hvalid,
      Ty.orElse_of_invalid Ty.valid_nonesuch, hcommon, answer]
  · have hvalue : T.prvalue u = .plain u.object := by
      rw [prvalue, hcv, ite_self]
      rfl
    rw [commonReference_of_value free hu hvalid rfl, ← hvalue, conditional_prvalue_self hu,
      Ty.orElse_of_valid (by rwa [valid_prvalue])]

/-- Two operands that are not volatile are absorbed by their common reference, whichever rule it comes from. -/
theorem absorbs_commonReference (free : T.EntryFree) (hst : t.cv.isVolatile = false) (hsu : u.cv.isVolatile = false)
    (valid : (T.commonReference t u).valid = true) : T.Absorbs t u (T.commonReference t u) := by
  obtain ⟨ht, hu⟩ := valid_of_commonReference valid
  have unspecialized := free.unspecialized t u
  have hcomm := commonReference_comm distinct (free.unspecialized u t) unspecialized
  cases hsimple : (T.simpleReference t u).valid with
  | true =>
      rw [commonReference_of_simpleReference ht hu hsimple]
      rcases simpleReference_simple hsimple with simple | simple
      · exact simple.absorbs distinct ht hu
      · exact (simple.absorbs distinct hu ht).symm
  | false =>
      have hanswer := commonReference_of_invalid_simpleReference unspecialized ht hu hsimple
      cases hconditional : (T.conditional t u).valid with
      | true =>
          rw [Ty.orElse_of_valid hconditional] at hanswer
          rw [hanswer]
          rcases conditional_meets distinct hconditional with meets | meets
          · exact meets.absorbs distinct free ht hu (volatileClass_of_cv hsu) hconditional hanswer
          · exact (meets.absorbs distinct free hu ht (volatileClass_of_cv hst) hconditional (hcomm.trans hanswer)).symm
      | false =>
          rw [Ty.orElse_of_invalid hconditional] at hanswer
          rw [hanswer] at valid ⊢
          rcases losesQualifiers_of_commonType distinct unspecialized hst hsu hconditional valid with
            ⟨loses, h⟩ | ⟨loses, h⟩
          · rw [h]
            exact loses.absorbs acyclic distinct free ht hu hst hsu h
          · rw [h]
            have hcommon := commonType_comm distinct (free.unspecialized u t) unspecialized
            exact (loses.absorbs acyclic distinct free hu ht hsu hst (hcommon.trans h)).symm

omit acyclic in
/-- Packs without volatile types have no volatile common reference. -/
theorem isVolatile_commonReferenceOf (free : T.EntryFree) {p : Pack ι} (steady : ∀ x ∈ p, x.cv.isVolatile = false) :
    (T.commonReferenceOf p).cv.isVolatile = false := by
  by_cases nonempty : p = []
  · rw [nonempty]
    rfl
  · apply commonReferenceOf_induction (motive := fun _ r => r.cv.isVolatile = false) nonempty steady
    intro q x r initial ih
    exact isVolatile_commonReference distinct (free.unspecialized r x) ih (steady x (initial.subset (by simp)))

/-- One step: what the last element of a pack was taken into takes it in again. -/
theorem commonReference_commonReferenceOf_concat (free : T.EntryFree) {p : Pack ι} (nonempty : p ≠ [])
    (steady : ∀ x ∈ p, x.cv.isVolatile = false) (hu : u.cv.isVolatile = false) :
    T.commonReference (T.commonReferenceOf (p ++ [u])) u = T.commonReferenceOf (p ++ [u]) := by
  rw [T.commonReferenceOf_concat nonempty u]
  cases valid : (T.commonReference (T.commonReferenceOf p) u).valid with
  | true =>
      rw [commonReference_comm distinct (free.unspecialized _ u) (free.unspecialized u _)]
      exact (absorbs_commonReference acyclic distinct free (isVolatile_commonReferenceOf distinct free steady) hu
        valid).right
  | false =>
      rw [(canonical_commonReference _ u).eq_nonesuch valid]
      exact T.commonReference_of_invalid_left Ty.valid_nonesuch

/-- Without entries the common reference of two types that are not volatile is that of itself and either of them. So the
last element of a pack counts once behind others, however often it is repeated. -/
theorem commonReference_absorbs (free : T.EntryFree) (t u : Ty ι) (ht : t.cv.isVolatile = false)
    (hu : u.cv.isVolatile = false) :
    ((T.commonReference t u).valid = true →
        T.commonReference t (T.commonReference t u) = T.commonReference t u ∧
          T.commonReference (T.commonReference t u) u = T.commonReference t u) ∧
      ∀ (p : Pack ι) (n : Nat), p ≠ [] → (∀ x ∈ p, x.cv.isVolatile = false) →
        T.commonReferenceOf (p ++ List.replicate (n + 1) u) = T.commonReferenceOf (p ++ [u]) := by
  constructor
  · intro valid
    have absorbs := absorbs_commonReference acyclic distinct free ht hu valid
    refine ⟨absorbs.left, ?_⟩
    exact (commonReference_comm distinct (free.unspecialized _ u) (free.unspecialized u _)).trans absorbs.right
  · intro p n nonempty steady
    induction n with
    | zero => rfl
    | succ n ih =>
        rw [List.replicate_succ', ← List.append_assoc, T.commonReferenceOf_concat (by simp [nonempty]), ih]
        exact commonReference_commonReferenceOf_concat acyclic distinct free nonempty steady hu

end PartialOrder

end Table

namespace Catalogue

/-- A `const` lvalue of a class and a value of its base have a common type only, and so has the lvalue with that. -/
theorem commonReference_absorbs_child_parent :
    let t := constLvalue .child
    let u := value .parent
    ((entryless.Acyclic ∧ entryless.Distinct) ∧ entryless.EntryFree ∧ t.cv.isVolatile = false ∧
        u.cv.isVolatile = false) ∧
      entryless.simpleReference t u = .nonesuch ∧ entryless.conditional t u = .nonesuch ∧
      entryless.commonReference t u = value .parent ∧
      entryless.commonReference t (value .parent) = value .parent ∧
      entryless.commonReference (value .parent) u = value .parent ∧
      ([t] ≠ [] ∧ ∀ x ∈ [t], x.cv.isVolatile = false) ∧ entryless.commonReferenceOf [t, u, u] = value .parent := by
  intro t u
  have ht : t.cv.isVolatile = false := by decide
  have hu : u.cv.isVolatile = false := by decide
  have hvalue : entryless.commonReference t u = value .parent := by decide
  have nonempty : [t] ≠ [] := by decide
  have steady : ∀ x ∈ [t], x.cv.isVolatile = false := by decide
  obtain ⟨habsorb, hpack⟩ :=
    Table.commonReference_absorbs entryless_acyclic entryless_distinct entryless_entryFree t u ht hu
  obtain ⟨hleft, hright⟩ := habsorb (by rw [hvalue]; decide)
  rw [hvalue] at hleft hright
  refine ⟨⟨⟨entryless_acyclic, entryless_distinct⟩, entryless_entryFree, ht, hu⟩, by decide, by decide, hvalue,
    hleft, hright, ⟨nonempty, steady⟩, ?_⟩
  calc
    entryless.commonReferenceOf [t, u, u] = entryless.commonReferenceOf [t, u] := hpack [t] 1 nonempty steady
    _ = entryless.commonReference t u := entryless.commonReferenceOf_pair t u
    _ = value .parent := hvalue

end Catalogue

end Concord
