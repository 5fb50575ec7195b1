import Concord.Catalogue.Numbered
import Concord.Proofs.CommonReference
import Concord.Proofs.Derivation

/-!
# Common references and common types agree

The common type asks the conditional operator about rvalues of the bare objects, the common reference about the operands
as they are. Whatever conversion decides for the operands also decides for the bare objects, and in the same direction,
as long as no class takes part that is volatile for the operands only. Then a common reference decays to the common type.
-/

namespace Concord

namespace Table

variable {ι : Type} {T : Table ι} {t u r : Ty ι}

variable (T) in
/-- If the type is volatile, then its object is no class and derives from none. -/
def Steady (t : Ty ι) : Prop :=
  t.cv.isVolatile = true → ∀ o, T.sameOrDerived t.object o = true → T.isClass o = false

/-- What decides for common types: the bare object as an rvalue. -/
def bare (o : Object ι) : Ty ι := .build o .unqualified .rvalue

theorem Steady.volatileClass (steady : T.Steady t) : T.volatileClass t = false := by
  cases hvolatile : t.cv.isVolatile with
  | false => simp [Table.volatileClass, hvolatile]
  | true => simp [Table.volatileClass, steady hvolatile t.object (T.sameOrDerived_self _)]

theorem commonByValue_decay (t u : Ty ι) :
    T.commonByValue t.decay u.decay = (T.conditional (bare t.object) (bare u.object)).decay := rfl

@[simp] theorem object_bare (o : Object ι) : (bare o).object = o := Ty.object_build _ _ _

@[simp] theorem valid_bare (o : Object ι) : (bare o).valid = o.valid := Ty.valid_build _ _ _

theorem volatileClass_bare (o : Object ι) : T.volatileClass (bare o) = false := volatileClass_build o .rvalue rfl

theorem bindsDirectly_bare {a b : Object ι} (ha : a.valid = true) (hb : b.valid = true) :
    T.bindsDirectly (bare a) (bare b) = T.sameOrDerived a b := by
  simp [bindsDirectly, refCompatible, refRelated, Ty.isXvalue, Ty.isLvalue, bare, Ty.cv_build_of_valid ha,
    Ty.cv_build_of_valid hb, Ty.kind_build_of_valid ha, Ty.kind_build_of_valid hb]

/-- A conversion between operands is one between their bare objects. -/
theorem converts_bare (ht : t.valid = true) (hu : u.valid = true) (hclass : T.anyClass t u = true)
    (h : T.converts t u = true) : T.converts (bare t.object) (bare u.object) = true := by
  have hclass' : T.anyClass (bare t.object) (bare u.object) = true := by simpa [anyClass] using hclass
  have hrelated : T.classesRelated (bare t.object) (bare u.object) = T.classesRelated t u := by
    simp [classesRelated]
  cases related : T.classesRelated t u with
  | true =>
      rw [converts_iff_of_anyClass hclass', bindsDirectly_bare ht hu]
      exact Or.inl (sameOrDerived_of_converts related h)
  | false =>
      have value := valueConvertible_of_converts (s := bare t.object) (object_bare _) (volatileClass_bare _)
        hclass related h
      apply converts_of_valueConvertible
      · rwa [valid_bare]
      · rwa [valid_bare]
      · exact hclass'
      · rw [hrelated, related]
      · rwa [object_bare]

theorem steady_of_cv (h : t.cv.isVolatile = false) : T.Steady t := by
  intro hvolatile
  rw [h] at hvolatile
  contradiction

/-- A number without bases derives from no class. -/
theorem steady_of_bases_eq_nil (distinct : T.Distinct) (ht : T.isArithmetic t.object = true)
    (hbases : T.bases t.object = []) : T.Steady t := by
  intro _ o derived
  have hobject : t.object = o := by
    simpa [sameOrDerived, isDerived, hbases, distinct.sameObject_iff] using derived
  rw [← hobject]
  exact T.isClass_eq_false_of_isArithmetic ht

/-- The object that a steady operand derives from is no volatile class under the qualifiers of two steady operands. -/
theorem volatileClass_build_of_steady (steady : T.Steady t) (steady' : T.Steady u) {c : Cv}
    (hvolatile : c.isVolatile = true → t.cv.isVolatile = true ∨ u.cv.isVolatile = true)
    (derived : T.sameOrDerived t.object u.object = true) :
    T.volatileClass (.build u.object c .lvalue) = false := by
  cases hc : c.isVolatile with
  | false => exact volatileClass_build u.object .lvalue hc
  | true =>
      have hclass : T.isClass u.object = false := by
        rcases hvolatile hc with h | h
        · exact steady h u.object derived
        · exact steady' h u.object (T.sameOrDerived_self _)
      simp [Table.volatileClass, hclass]

/-- A simple answer has the object that the conditional operator answers for lvalues of one qualification, which is
volatile only if an operand is. -/
theorem Simple.source (distinct : T.Distinct) (ht : t.valid = true) (hu : u.valid = true)
    (simple : T.Simple t u r) :
    ∃ c : Cv, (c.isVolatile = true → t.cv.isVolatile = true ∨ u.cv.isVolatile = true) ∧
      ∃ l, T.conditional (.build t.object c .lvalue) (.build u.object c .lvalue) = l ∧
        l.valid = true ∧ l.isReference = true ∧ r.decay = l.decay := by
  have hsource {a b : Ty ι} (ha : Referent t a) (hb : Referent u b)
      (valid : (T.lvalueReference a b).valid = true) :
      ∃ c : Cv, (c.isVolatile = true → t.cv.isVolatile = true ∨ u.cv.isVolatile = true) ∧
        ∃ l, T.conditional (.build t.object c .lvalue) (.build u.object c .lvalue) = l ∧
          l.valid = true ∧ l.isReference = true ∧ (T.lvalueReference a b).decay = l.decay := by
    obtain ⟨h, reference⟩ := lvalueReference_source distinct (ha.valid ht) (hb.valid hu) ha.kind_eq hb.kind_eq valid
    refine ⟨a.cv.union b.cv, ?_, _, ?_, valid, reference, rfl⟩
    · intro hvolatile
      simpa [Cv.union, ha.isVolatile_eq, hb.isVolatile_eq] using hvolatile
    · rw [h, ha.object_eq, hb.object_eq]
  have hleft := referent_removeReference ht
  have hright := referent_removeReference hu
  cases simple with
  | lvalues _ _ valid => exact hsource hleft hright valid
  | rvalues _ _ valid =>
      obtain ⟨c, hvolatile, l, hl, hvalid, reference, hdecay⟩ := hsource hleft hright valid
      refine ⟨c, hvolatile, l, hl, hvalid, reference, ?_⟩
      rw [← hdecay, Ty.decay, Ty.object_rvalue]
      rfl
  | mixed _ _ valid _ => exact hsource hleft (referent_addConst hu) valid

section PartialOrder

variable (acyclic : T.Acyclic) (distinct : T.Distinct)

include acyclic distinct

/-- A conversion that the operands have in one direction only is one-way between their bare objects too. -/
theorem converts_bare_eq_false (ht : t.valid = true) (hu : u.valid = true) (hclass : T.anyClass t u = true)
    (differ : t.object ≠ u.object) (steady : T.volatileClass u = false) (h : T.converts t u = true)
    (oneWay : T.converts u t = false) : T.converts (bare u.object) (bare t.object) = false := by
  have hclass' : T.anyClass (bare u.object) (bare t.object) = true := by
    rw [anyClass_comm] at hclass
    simpa [anyClass] using hclass
  have hrelated : T.classesRelated (bare u.object) (bare t.object) = T.classesRelated t u := by
    rw [classesRelated_comm t u]
    simp [classesRelated]
  by_contra hback
  rw [Bool.not_eq_false] at hback
  cases related : T.classesRelated t u with
  | true =>
      have hto := sameOrDerived_of_converts related h
      have hfrom := sameOrDerived_of_converts (hrelated.trans related) hback
      rw [object_bare, object_bare] at hfrom
      exact differ (sameOrDerived_antisymm acyclic distinct hto hfrom)
  | false =>
      have value := valueConvertible_of_converts (s := u) (object_bare _).symm steady hclass'
        (hrelated.trans related) hback
      rw [object_bare] at value
      have hconverts := converts_of_valueConvertible hu ht (by rwa [anyClass_comm])
        (by rwa [classesRelated_comm]) value
      rw [oneWay] at hconverts
      contradiction

/-- What two operands meet in has the object of the common type of their objects. -/
theorem commonByValue_of_meets (ht : t.valid = true) (hu : u.valid = true)
    (steady : T.volatileClass u = false) (meets : T.Meets t u r) :
    T.commonByValue t.decay u.decay = r.decay := by
  rw [commonByValue_decay]
  by_cases same : t.object = u.object
  · rw [same, Ty.decay, conditional_self (by rwa [valid_bare]), object_bare, Ty.decay, meets.object_eq same]
  · have hcommon (needs : T.needsConversion t u = true) (converts : T.converts t u = true)
        (oneWay : T.converts u t = false) :
        (T.conditional (bare t.object) (bare u.object)).decay = .plain u.object := by
      have hclass := anyClass_of_needsConversion distinct same needs
      rw [conditional_eq_convertedTo (by rwa [valid_bare]) (by rwa [valid_bare])
        (needsConversion_of_anyClass distinct (by simpa using same) (by simpa [anyClass] using hclass))
        (converts_bare ht hu hclass converts)
        (converts_bare_eq_false acyclic distinct ht hu hclass same steady converts oneWay)]
      rw [Ty.decay, object_convertedTo, object_bare]
    cases meets with
    | glvalue _ _ referent =>
        simp only [sameReferent, Bool.and_eq_true, distinct.sameObject_iff] at referent
        exact absurd referent.1 same
    | bind needs binds oneWay =>
        have hobject : u.canon.decay = .plain u.object := by rw [Ty.decay, Ty.object_canon]
        rw [hobject]
        exact hcommon needs (by simp [converts, binds]) oneWay
    | value needs converts _ oneWay =>
        have hobject : (T.prvalue u).decay = .plain u.object := by rw [Ty.decay, object_prvalue]
        rw [hobject]
        exact hcommon needs converts oneWay
    | sameValue value =>
        simp only [isSame, object_prvalue, Bool.and_eq_true, distinct.sameObject_iff] at value
        exact absurd value.1 same
    | number _ hta hua =>
        rw [conditional_of_isArithmetic distinct (by simpa using same) (by simpa using hta) (by simpa using hua),
          object_bare, object_bare]

/-- A valid answer of the conditional operator decays to the common type. -/
theorem commonByValue_of_conditional (steady : T.volatileClass t = false) (steady' : T.volatileClass u = false)
    (valid : (T.conditional t u).valid = true) :
    T.commonByValue t.decay u.decay = (T.conditional t u).decay := by
  obtain ⟨ht, hu⟩ := T.valid_of_conditional valid
  rcases conditional_meets distinct valid with meets | meets
  · exact commonByValue_of_meets acyclic distinct ht hu steady' meets
  · rw [commonByValue, conditional_comm distinct]
    exact commonByValue_of_meets acyclic distinct hu ht steady meets

/-- A simple answer for steady operands decays to the common type. -/
theorem Simple.commonByValue (ht : t.valid = true) (hu : u.valid = true) (steady : T.Steady t)
    (steady' : T.Steady u) (simple : T.Simple t u r) : T.commonByValue t.decay u.decay = r.decay := by
  obtain ⟨c, hvolatile, l, hl, hvalid, reference, hdecay⟩ := simple.source distinct ht hu
  subst hl
  rw [hdecay]
  have hclass {x y : Ty ι} (hx : T.Steady x) (hy : T.Steady y)
      (hvolatile : c.isVolatile = true → x.cv.isVolatile = true ∨ y.cv.isVolatile = true)
      (meets : T.Meets (.build x.object c .lvalue) (.build y.object c .lvalue)
        (T.conditional (.build t.object c .lvalue) (.build u.object c .lvalue))) :
      T.volatileClass (.build y.object c .lvalue) = false := by
    apply volatileClass_build_of_steady hx hy hvolatile
    simpa using sameOrDerived_of_bindsDirectly (meets.bindsDirectly distinct reference).1
  have hleft : (Ty.build t.object c .lvalue).valid = true := by rwa [Ty.valid_build]
  have hright : (Ty.build u.object c .lvalue).valid = true := by rwa [Ty.valid_build]
  rcases conditional_meets distinct hvalid with meets | meets
  · have h := commonByValue_of_meets acyclic distinct hleft hright (hclass steady steady' hvolatile meets) meets
    simpa [commonByValue_decay] using h
  · have h := commonByValue_of_meets acyclic distinct hright hleft
      (hclass steady' steady (fun h => (hvolatile h).symm) meets) meets
    rw [commonByValue_decay, conditional_comm distinct]
    simpa [commonByValue_decay] using h

theorem commonByValue_of_simpleReference (ht : t.valid = true) (hu : u.valid = true) (steady : T.Steady t)
    (steady' : T.Steady u) (valid : (T.simpleReference t u).valid = true) :
    T.commonByValue t.decay u.decay = (T.simpleReference t u).decay := by
  rcases simpleReference_simple valid with simple | simple
  · exact simple.commonByValue acyclic distinct ht hu steady steady'
  · rw [Table.commonByValue, conditional_comm distinct]
    exact simple.commonByValue acyclic distinct hu ht steady' steady

/-- A common reference without an entry decays to the common type, and the one exists if the other does. -/
theorem decay_commonReference (t u : Ty ι) (steady : T.Steady t) (steady' : T.Steady u)
    (unspecialized : T.Unspecialized t u) :
    (T.commonReference t u).decay = T.commonType t u ∧
      ((T.commonReference t u).valid = true ↔ (T.commonType t u).valid = true) := by
  have hdecay : (T.commonReference t u).decay = T.commonType t u := by
    cases ht : t.valid with
    | false =>
        rw [T.commonReference_of_invalid_left ht, T.commonType_of_invalid_left ht]
        rfl
    | true =>
        cases hu : u.valid with
        | false =>
            rw [T.commonReference_of_invalid_right hu, T.commonType_of_invalid_right hu]
            rfl
        | true =>
            rcases commonReference_cases unspecialized ht hu with ⟨valid, h⟩ | ⟨valid, h⟩ | h
            · have hvalue := commonByValue_of_simpleReference acyclic distinct ht hu steady steady' valid
              rw [h, ← hvalue, commonType_eq_commonByValue unspecialized.type ht hu]
            · have hvalue := commonByValue_of_conditional acyclic distinct steady.volatileClass
                steady'.volatileClass valid
              rw [h, ← hvalue, commonType_eq_commonByValue unspecialized.type ht hu]
            · rw [h]
              exact decay_commonType unspecialized
  refine ⟨hdecay, ?_⟩
  rw [← hdecay]
  exact Iff.rfl

end PartialOrder

end Table

namespace Catalogue

/-- An lvalue of a class and a `volatile` lvalue of its number base. -/
theorem decay_commonReference_intLike_i32 :
    let t := lvalue .intLike
    let u := (value .i32).addVolatile.addLvalueReference
    (separated.Steady t ∧ separated.Steady u) ∧ separated.Unspecialized t u ∧
      separated.commonReference t u = u ∧ (separated.commonReference t u).decay = separated.commonType t u ∧
      ((separated.commonReference t u).valid = true ↔ (separated.commonType t u).valid = true) := by
  intro t u
  have steady : separated.Steady t := Table.steady_of_cv (by decide)
  have steady' : separated.Steady u := Table.steady_of_bases_eq_nil separated_distinct (by decide) (by decide)
  have unspecialized : separated.Unspecialized t u := ⟨by decide, by decide⟩
  have hreference : separated.commonReference t u = u := by decide
  have h := Table.decay_commonReference separated_acyclic separated_distinct t u steady steady' unspecialized
  exact ⟨⟨steady, steady'⟩, unspecialized, hreference, h⟩

/-- The items, but one number has a class for its base and is constructed from values of that class. -/
def classedRegistration (i : Item) : Registration Item :=
  match i with
  | .half =>
    { ofKind .half (.floating .float) with bases := objects [.mode], convertsFrom := objects [.mode] }
  | i => registration i

/-- The catalogue under numbers, with a number that derives from a class. -/
def classed : Table Item :=
  numbered classedRegistration (fun r => by cases r <;> constructor <;> rfl) builtin_bool

theorem classed_distinct : classed.Distinct := numbered_distinct

theorem classed_acyclic : classed.Acyclic := by
  apply numbered_acyclic
  intro i
  cases i <;> decide

/-- Without `Steady` the two answers part: a `volatile` number binds to its class, but values of both convert to each
other. -/
theorem decay_commonReference_ne_commonType :
    let t := lvalue .mode
    let u := (value .half).addVolatile.addLvalueReference
    (classed.Acyclic ∧ classed.Distinct) ∧ (classed.volatileClass t = false ∧ classed.volatileClass u = false) ∧
      classed.Unspecialized t u ∧ classed.commonReference t u = (value .mode).addVolatile.addLvalueReference ∧
      classed.commonType t u = .nonesuch ∧ (classed.commonReference t u).decay ≠ classed.commonType t u := by
  intro t u
  have unspecialized : classed.Unspecialized t u := ⟨by decide, by decide⟩
  have hreference : classed.commonReference t u = (value .mode).addVolatile.addLvalueReference := by decide
  have htype : classed.commonType t u = .nonesuch := by decide
  refine ⟨⟨classed_acyclic, classed_distinct⟩, ⟨by decide, by decide⟩, unspecialized, hreference, htype, ?_⟩
  rw [hreference, htype]
  decide

end Catalogue

end Concord
