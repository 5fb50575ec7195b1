import Concord.CommonReference
import Concord.Proofs.Joins

/-!
# The simple rules for references

Each of the three rules asks the conditional operator about lvalues of the operands' referents under the qualifiers of
both, and keeps the answer if the operands convert to it. `Simple` lists the answers; each of them joins the operands.
-/

namespace Concord

namespace Table

variable {ι : Type} {T : Table ι} {t u r a b : Ty ι}

/-- The referent of a type, which may be made `const`. -/
structure Referent (t a : Ty ι) : Prop where
  object_eq : a.object = t.object
  kind_eq : a.kind = .none
  covers : a.cv.covers t.cv = true
  isVolatile_eq : a.cv.isVolatile = t.cv.isVolatile

theorem Referent.valid (h : Referent t a) (ht : t.valid = true) : a.valid = true := by
  rwa [Ty.valid, h.object_eq]

theorem referent_removeReference (ht : t.valid = true) : Referent t t.removeReference where
  object_eq := Ty.object_removeReference t
  kind_eq := Ty.kind_removeReference t
  covers := by
    rw [Ty.cv_removeReference_of_valid ht]
    exact Cv.covers_refl t.cv
  isVolatile_eq := by rw [Ty.cv_removeReference_of_valid ht]

theorem referent_addConst (ht : t.valid = true) : Referent t t.removeReference.addConst := by
  have hvalid : t.removeReference.valid = true := by rwa [Ty.valid_removeReference]
  have hcv : t.removeReference.addConst.cv = Cv.const.union t.cv := by
    rw [Ty.cv_addConst_of_valid hvalid (Ty.kind_removeReference t), Ty.cv_removeReference_of_valid ht]
  refine ⟨by simp, ?_, ?_, ?_⟩
  · rw [Ty.kind_addConst_of_valid hvalid, Ty.kind_removeReference]
  · rw [hcv]
    exact Cv.covers_union_right _ _
  · rw [hcv]
    rfl

/-- The referent of `b` with the qualifiers of both referents, as an lvalue. -/
theorem addLvalueReference_copyCv (ha : a.valid = true) (hb : b.valid = true) (hkind : b.kind = .none) :
    (a.copyCv b).addLvalueReference = .build b.object (a.cv.union b.cv) .lvalue := by
  have hcopy : a.copyCv b = .build b.object (a.cv.union b.cv) .none := by
    rw [Ty.copyCv_of_valid ha, Ty.addCv, hkind]
    rfl
  rw [hcopy, Ty.addLvalueReference, Ty.object_build, Ty.cv_build_of_valid hb]
  rfl

/-- The lvalue rule asks the conditional operator about lvalues of one qualification. -/
theorem lvalueReference_eq (ha : a.valid = true) (hb : b.valid = true) (hka : a.kind = .none)
    (hkb : b.kind = .none) :
    T.lvalueReference a b =
      let c := T.conditional (.build b.object (a.cv.union b.cv) .lvalue)
        (.build a.object (a.cv.union b.cv) .lvalue)
      if c.isReference then c else .nonesuch := by
  rw [lvalueReference, addLvalueReference_copyCv ha hb hkb, addLvalueReference_copyCv hb ha hka,
    Cv.union_comm b.cv a.cv]

/-- Two rvalue references have the rvalue form of the lvalue answer, if both bind to it. -/
theorem simpleReference_eq_rvalue {l : Ty ι} (ht : t.valid = true) (hu : u.valid = true) (hkt : t.kind = .rvalue)
    (hku : u.kind = .rvalue) (answer : T.lvalueReference t.removeReference u.removeReference = l)
    (left : T.convertible t l.rvalue = true) (right : T.convertible u l.rvalue = true) :
    T.simpleReference t u = l.rvalue := by
  simp only [simpleReference, hkt, hku, rvalueReference]
  rw [answer, Ty.rvalue_removeReference ht hkt, Ty.rvalue_removeReference hu hku, left, right]
  rfl

variable (T) in
/-- The ways in which the simple rules come to a valid answer when the lvalue, if there is one, comes first. -/
inductive Simple (t u : Ty ι) : Ty ι → Prop where
  | lvalues (ht : t.kind = .lvalue) (hu : u.kind = .lvalue)
      (valid : (T.lvalueReference t.removeReference u.removeReference).valid = true) :
      Simple t u (T.lvalueReference t.removeReference u.removeReference)
  | rvalues (ht : t.kind = .rvalue) (hu : u.kind = .rvalue)
      (valid : (T.lvalueReference t.removeReference u.removeReference).valid = true) :
      Simple t u (T.lvalueReference t.removeReference u.removeReference).rvalue
  | mixed (ht : t.kind = .lvalue) (hu : u.kind = .rvalue)
      (valid : (T.lvalueReference t.removeReference u.removeReference.addConst).valid = true)
      (converts : T.convertible u.removeReference.rvalue
        (T.lvalueReference t.removeReference u.removeReference.addConst) = true) :
      Simple t u (T.lvalueReference t.removeReference u.removeReference.addConst)

theorem rvalueReference_simple (ht : t.kind = .rvalue) (hu : u.kind = .rvalue)
    (valid : (T.rvalueReference t.removeReference u.removeReference).valid = true) :
    T.Simple t u (T.rvalueReference t.removeReference u.removeReference) := by
  unfold rvalueReference at valid ⊢
  dsimp only at valid ⊢
  split at valid
  · rename_i converts
    rw [if_pos converts]
    rw [Ty.valid_rvalue] at valid
    exact .rvalues ht hu valid
  · exact absurd valid (by simp)

theorem mixedReference_simple (ht : t.kind = .lvalue) (hu : u.kind = .rvalue)
    (valid : (T.mixedReference t.removeReference u.removeReference).valid = true) :
    T.Simple t u (T.mixedReference t.removeReference u.removeReference) := by
  unfold mixedReference at valid ⊢
  dsimp only at valid ⊢
  split at valid
  · rename_i converts
    rw [if_pos converts]
    exact .mixed ht hu valid converts
  · exact absurd valid (by simp)

/-- Each valid answer of the simple rules is reached with one of the two operands first. -/
theorem simpleReference_simple (valid : (T.simpleReference t u).valid = true) :
    T.Simple t u (T.simpleReference t u) ∨ T.Simple u t (T.simpleReference t u) := by
  cases hkt : t.kind with
  | none => simp [simpleReference, hkt] at valid
  | lvalue =>
      cases hku : u.kind with
      | none => simp [simpleReference, hkt, hku] at valid
      | lvalue =>
          simp only [simpleReference, hkt, hku] at valid ⊢
          exact Or.inl (.lvalues hkt hku valid)
      | rvalue =>
          simp only [simpleReference, hkt, hku] at valid ⊢
          exact Or.inl (mixedReference_simple hkt hku valid)
  | rvalue =>
      cases hku : u.kind with
      | none => simp [simpleReference, hkt, hku] at valid
      | lvalue =>
          simp only [simpleReference, hkt, hku] at valid ⊢
          exact Or.inr (mixedReference_simple hku hkt valid)
      | rvalue =>
          simp only [simpleReference, hkt, hku] at valid ⊢
          exact Or.inl (rvalueReference_simple hkt hku valid)

section Distinct

variable (distinct : T.Distinct)

include distinct

/-- The lvalue answer is that of the conditional operator on lvalues of one qualification. -/
theorem lvalueReference_source (ha : a.valid = true) (hb : b.valid = true) (hka : a.kind = .none)
    (hkb : b.kind = .none) (valid : (T.lvalueReference a b).valid = true) :
    T.lvalueReference a b = T.conditional (.build a.object (a.cv.union b.cv) .lvalue)
        (.build b.object (a.cv.union b.cv) .lvalue) ∧
      (T.lvalueReference a b).isReference = true := by
  rw [lvalueReference_eq ha hb hka hkb, conditional_comm distinct] at valid ⊢
  dsimp only at valid ⊢
  split at valid
  · rename_i reference
    rw [if_pos reference]
    exact ⟨rfl, reference⟩
  · exact absurd valid (by simp)

/-- A valid lvalue answer is an lvalue of the qualification that the operator was asked about. -/
theorem decoration_lvalueReference (ha : a.valid = true) (hb : b.valid = true) (hka : a.kind = .none)
    (hkb : b.kind = .none) (valid : (T.lvalueReference a b).valid = true) :
    (T.lvalueReference a b).cv = a.cv.union b.cv ∧ (T.lvalueReference a b).kind = .lvalue := by
  obtain ⟨h, reference⟩ := lvalueReference_source distinct ha hb hka hkb valid
  rw [h] at valid reference ⊢
  rcases conditional_eq_canon distinct valid reference with h | h
  · rw [h, Ty.canon_build]
    exact ⟨Ty.cv_build_of_valid ha _ _, Ty.kind_build_of_valid ha _ _⟩
  · rw [h, Ty.canon_build]
    exact ⟨Ty.cv_build_of_valid hb _ _, Ty.kind_build_of_valid hb _ _⟩

/-- The lvalue answer for two referents is a reference that both types are compatible with. -/
theorem refCompatible_lvalueReference (ht : t.valid = true) (hu : u.valid = true) (ha : Referent t a)
    (hb : Referent u b) (valid : (T.lvalueReference a b).valid = true) :
    T.refCompatible t (T.lvalueReference a b) = true ∧ T.refCompatible u (T.lvalueReference a b) = true ∧
      (T.lvalueReference a b).isLvalue = true := by
  obtain ⟨hcv, hkind⟩ :=
    decoration_lvalueReference distinct (ha.valid ht) (hb.valid hu) ha.kind_eq hb.kind_eq valid
  obtain ⟨h, reference⟩ := lvalueReference_source distinct (ha.valid ht) (hb.valid hu) ha.kind_eq hb.kind_eq valid
  rw [h] at valid reference hcv hkind ⊢
  have hjoins := conditional_joins distinct valid reference
  have hleft := refRelated_of_refCompatible hjoins.left
  have hright := refRelated_of_refCompatible hjoins.right
  rw [refRelated, Ty.object_build] at hleft hright
  refine ⟨refCompatible_of_covers (ha.object_eq ▸ hleft) ?_, refCompatible_of_covers (hb.object_eq ▸ hright) ?_,
    Ty.isLvalue_iff.2 hkind⟩
  · rw [hcv]
    exact Cv.covers_trans (Cv.covers_union_left _ _) ha.covers
  · rw [hcv]
    exact Cv.covers_trans (Cv.covers_union_right _ _) hb.covers

/-- The simple rules add no `volatile`. -/
theorem Simple.isVolatile (ht : t.valid = true) (hu : u.valid = true) (simple : T.Simple t u r)
    (steady : t.cv.isVolatile = false) (steady' : u.cv.isVolatile = false) : r.cv.isVolatile = false := by
  have hunion {a b : Ty ι} (ha : Referent t a) (hb : Referent u b)
      (valid : (T.lvalueReference a b).valid = true) : (T.lvalueReference a b).cv.isVolatile = false := by
    obtain ⟨hcv, -⟩ := decoration_lvalueReference distinct (ha.valid ht) (hb.valid hu) ha.kind_eq hb.kind_eq valid
    rw [hcv, Cv.union, ha.isVolatile_eq, hb.isVolatile_eq, steady, steady']
    rfl
  have hleft := referent_removeReference ht
  have hright := referent_removeReference hu
  cases simple with
  | lvalues _ _ valid => exact hunion hleft hright valid
  | rvalues _ _ valid => exact Ty.isVolatile_build _ _ (hunion hleft hright valid)
  | mixed _ _ valid _ => exact hunion hleft (referent_addConst hu) valid

/-- The answer for an lvalue and an rvalue has to take a converted rvalue, so it is exactly `const`. -/
theorem Simple.joins (ht : t.valid = true) (hu : u.valid = true) (simple : T.Simple t u r) : T.Joins t u r := by
  have hleft := referent_removeReference ht
  have hright := referent_removeReference hu
  cases simple with
  | lvalues hkt hku valid =>
      obtain ⟨left, right, hlvalue⟩ := refCompatible_lvalueReference distinct ht hu hleft hright valid
      exact ⟨left, right, Or.inr ⟨hlvalue, Or.inr (by simp [Ty.isLvalue, hkt, hku])⟩⟩
  | rvalues hkt hku valid =>
      obtain ⟨left, right, -⟩ := refCompatible_lvalueReference distinct ht hu hleft hright valid
      refine ⟨by rwa [refCompatible_rvalue valid], by rwa [refCompatible_rvalue valid], Or.inl ?_⟩
      simp [Ty.isXvalue, Ty.isLvalue, Ty.kind_rvalue_of_valid valid, hkt, hku]
  | mixed hkt hku valid converts =>
      obtain ⟨left, right, hlvalue⟩ :=
        refCompatible_lvalueReference distinct ht hu hleft (referent_addConst hu) valid
      have const := cv_eq_const_of_convertible converts hlvalue (Ty.isLvalue_rvalue _)
      exact ⟨left, right, Or.inr ⟨hlvalue, Or.inl const⟩⟩

theorem simpleReference_joins (ht : t.valid = true) (hu : u.valid = true)
    (valid : (T.simpleReference t u).valid = true) : T.Joins t u (T.simpleReference t u) := by
  rcases simpleReference_simple valid with simple | simple
  · exact simple.joins distinct ht hu
  · exact (simple.joins distinct hu ht).symm

theorem lvalueReference_comm (a b : Ty ι) : T.lvalueReference a b = T.lvalueReference b a := by
  rw [lvalueReference, lvalueReference, conditional_comm distinct]

/-- The simple rules look the same from both operands: two of one category ask one rule about both, and of two
categories the lvalue comes first. -/
theorem simpleReference_comm (t u : Ty ι) : T.simpleReference t u = T.simpleReference u t := by
  unfold simpleReference
  cases t.kind <;> cases u.kind <;> try rfl
  · exact lvalueReference_comm distinct _ _
  · change T.rvalueReference _ _ = T.rvalueReference _ _
    rw [rvalueReference, rvalueReference, lvalueReference_comm distinct t.removeReference, Bool.and_comm]

end Distinct

end Table

end Concord
