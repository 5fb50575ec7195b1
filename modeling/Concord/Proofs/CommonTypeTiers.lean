import Concord.Catalogue.Numbered
import Concord.CommonType
import Concord.Proofs.Conditional

/-!
# One evaluation decides common types

For two references of one kind and one qualification that is not volatile, the object that the conditional operator comes
to depends on the objects of the operands only: `meetingObject` says which one it is. Rvalues and `const` lvalues of two
objects are such references, so the evaluation on `const` lvalues has no common type that the one on values lacks.
-/

namespace Concord

namespace Table

variable {ι : Type} (T : Table ι)

/-- An object becomes another one: it derives from it, or neither derives from the other and a value converts. -/
def becomes (a b : Object ι) : Bool :=
  T.sameOrDerived a b || (!T.classesRelated (.plain a) (.plain b) && T.valueConvertible (.plain a) b)

/-- The object in which two objects meet: the one that the other becomes, if that is not also so the other way round, or
the number of the higher rank. -/
def meetingObject (a b : Object ι) : Object ι :=
  if T.sameObject a b then a
  else if T.isClass a || T.isClass b then
    match T.becomes a b, T.becomes b a with
    | true, false => b
    | false, true => a
    | _, _ => .nonesuch
  else if T.isArithmetic a && T.isArithmetic b then T.usualArithmetic a b
  else .nonesuch

/-- Two references of one kind and one qualification, which is not volatile. -/
structure Alike (t u : Ty ι) : Prop where
  reference : t.isReference = true
  kind_eq : t.kind = u.kind
  cv_eq : t.cv = u.cv
  steady : t.cv.isVolatile = false

variable {T} {t u : Ty ι}

theorem Alike.symm (alike : Alike t u) : Alike u t where
  reference := by rw [Ty.isReference, ← alike.kind_eq]; exact alike.reference
  kind_eq := alike.kind_eq.symm
  cv_eq := alike.cv_eq.symm
  steady := alike.cv_eq ▸ alike.steady

theorem alike_build {a b : Object ι} (ha : a.valid = true) (hb : b.valid = true) {c : Cv} {k : RefKind}
    (reference : k.isReference = true) (steady : c.isVolatile = false) :
    Alike (.build a c k) (.build b c k) where
  reference := by rwa [Ty.isReference, Ty.kind_build_of_valid ha]
  kind_eq := by rw [Ty.kind_build_of_valid ha, Ty.kind_build_of_valid hb]
  cv_eq := by rw [Ty.cv_build_of_valid ha, Ty.cv_build_of_valid hb]
  steady := Ty.isVolatile_build a k steady

theorem Alike.bindsDirectly (alike : Alike t u) :
    T.bindsDirectly t u = T.sameOrDerived t.object u.object := by
  rcases Ty.isReference_iff.1 alike.reference with h | h
  · simp [Table.bindsDirectly, refCompatible, refRelated, Ty.isLvalue, ← alike.kind_eq, ← alike.cv_eq, h]
  · simp [Table.bindsDirectly, refCompatible, refRelated, Ty.isXvalue, ← alike.kind_eq, ← alike.cv_eq, h]

/-- A reference that is not volatile converts like the bare value. -/
theorem Alike.valueConvertible (alike : Alike t u) (o : Object ι) :
    T.valueConvertible t o = T.valueConvertible (.plain t.object) o := by
  rw [Bool.eq_iff_iff]
  constructor
  · exact valueConvertible_of_object_eq rfl (volatileClass_of_cv rfl)
  · exact valueConvertible_of_object_eq rfl (volatileClass_of_cv alike.steady)

theorem Alike.converts (alike : Alike t u) (ht : t.valid = true) (hu : u.valid = true)
    (hclass : T.anyClass t u = true) : T.converts t u = T.becomes t.object u.object := by
  have hrelated : T.classesRelated (.plain t.object) (.plain u.object) = T.classesRelated t u := rfl
  rw [Bool.eq_iff_iff, converts_iff_of_anyClass hclass, alike.bindsDirectly, becomes, hrelated]
  cases related : T.classesRelated t u with
  | true => simp [prvalueConverts, related, alike.cv_eq]
  | false =>
      simp [prvalueConverts, related, convertible_of_kind_none (kind_prvalue u), ht, hu, alike.valueConvertible]

/-- An operand and another one that was converted to it meet in its object. -/
theorem object_finish_convertedTo (ht : t.valid = true) : (T.finish t (T.convertedTo u t)).object = t.object := by
  unfold convertedTo
  split
  · rename_i binds
    have hkind : t.kind = t.canon.kind := (Ty.kind_canon_of_valid ht).symm
    have same : T.sameReferent t t.canon = true := by
      simp [sameReferent, Ty.cv_canon_of_valid ht]
    rw [finish_of_glvalue (isReference_of_bindsDirectly binds) hkind same, Ty.object_canon]
  · have glvalue : t.isReference = false ∨ t.kind ≠ (T.prvalue t).kind := by
      rw [kind_prvalue, Ty.isReference_eq_false_iff]
      exact Decidable.em _
    rw [finish_of_sameValue glvalue (by rw [prvalue_prvalue]; exact T.isSame_self _), object_prvalue]

/-- The answer for two alike references, without its decoration. -/
theorem Alike.decay_conditional (alike : Alike t u) (ht : t.valid = true) (hu : u.valid = true) :
    (T.conditional t u).decay = .plain (T.meetingObject t.object u.object) := by
  have needs : T.needsConversion t u = (!T.sameObject t.object u.object && T.anyClass t u) := by
    simp [needsConversion, sameReferent, alike.cv_eq]
  have hobject : (T.conditional t u).object = T.meetingObject t.object u.object := by
    rw [conditional, if_pos (by simp [ht, hu]), needs, meetingObject]
    cases same : T.sameObject t.object u.object with
    | true =>
        have hreferent : T.sameReferent t u = true := by simp [sameReferent, same, alike.cv_eq]
        simp [finish_of_glvalue alike.reference alike.kind_eq hreferent]
    | false =>
        cases hclass : T.anyClass t u with
        | true =>
            have hclass' : (T.isClass t.object || T.isClass u.object) = true := hclass
            have hto := alike.converts ht hu hclass
            have hback := alike.symm.converts hu ht (by rwa [anyClass_comm])
            simp only [convertOne, hto, hback, hclass']
            cases T.becomes t.object u.object <;> cases T.becomes u.object t.object
            · exact congrArg Ty.object (finish_eq_nonesuch same hclass)
            · exact object_finish_convertedTo ht
            · exact (congrArg Ty.object (finish_convertedTo hu)).trans (object_convertedTo t u)
            · rfl
        | false =>
            have hclass' : (T.isClass t.object || T.isClass u.object) = false := hclass
            simp only [finish_of_differ same, hclass', Bool.and_false, Bool.false_eq_true, if_false]
            exact apply_ite Ty.object _ _ _
  rw [Ty.decay, hobject]

/-- Values of two objects meet in an object. -/
theorem commonByValue_eq (ht : t.valid = true) (hu : u.valid = true) :
    T.commonByValue t.decay u.decay = .plain (T.meetingObject t.object u.object) := by
  have alike : Alike t.decay.addRvalueReference u.decay.addRvalueReference := alike_build ht hu rfl rfl
  have h := alike.decay_conditional (T := T) (by simpa [Ty.valid] using ht) (by simpa [Ty.valid] using hu)
  simpa [commonByValue] using h

/-- `const` lvalues of two objects meet in the same object. -/
theorem commonByConstLvalue_eq (ht : t.valid = true) (hu : u.valid = true) :
    T.commonByConstLvalue t.decay u.decay = .plain (T.meetingObject t.object u.object) := by
  have alike : Alike t.decay.constLvalue u.decay.constLvalue := alike_build ht hu rfl rfl
  have h := alike.decay_conditional (T := T) (by simpa [Ty.valid] using ht) (by simpa [Ty.valid] using hu)
  simpa [commonByConstLvalue] using h

/-- The common type is that of the entry if it is valid, and otherwise that of the values. -/
theorem commonType_eq_orElse (ht : t.valid = true) (hu : u.valid = true) :
    T.commonType t u = (T.commonTypeEntry t.decay u.decay).orElse fun _ => T.commonByValue t.decay u.decay := by
  have hself (r : Ty ι) : (r.orElse fun _ => r) = r := ite_self r
  have hdecay : (t.decay.valid && u.decay.valid) = true := by simpa [Ty.valid] using ⟨ht, hu⟩
  simp only [commonType, if_pos hdecay]
  rw [commonByValue_eq ht hu, commonByConstLvalue_eq ht hu, hself]

/-- Without an entry the common type is that of the values. -/
theorem commonType_eq_commonByValue (unregistered : (T.commonTypeEntry t.decay u.decay).valid = false)
    (ht : t.valid = true) (hu : u.valid = true) : T.commonType t u = T.commonByValue t.decay u.decay := by
  rw [commonType_eq_orElse ht hu]
  exact Ty.orElse_of_invalid unregistered _

/-- Values and `const` lvalues of two objects have one decayed answer. So a common type is that of the entry or that of
the values, and where the values have none, the `const` lvalues have none. -/
theorem commonType_tiers (a b : Object ι) (ha : a.valid = true) (hb : b.valid = true) :
    (T.conditional (Ty.plain a).addRvalueReference (Ty.plain b).addRvalueReference).decay =
        (T.conditional (Ty.plain a).constLvalue (Ty.plain b).constLvalue).decay ∧
      ∀ t u : Ty ι, t.object = a → u.object = b →
        T.commonType t u =
            ((T.commonTypeEntry t.decay u.decay).orElse fun _ => T.commonByValue t.decay u.decay) ∧
          ((T.commonByValue t.decay u.decay).valid = false → (T.commonByConstLvalue t.decay u.decay).valid = false) := by
  constructor
  · have hvalue := commonByValue_eq (T := T) (t := .plain a) (u := .plain b) ha hb
    exact hvalue.trans (commonByConstLvalue_eq (t := .plain a) (u := .plain b) ha hb).symm
  · rintro t u rfl rfl
    refine ⟨commonType_eq_orElse ha hb, ?_⟩
    intro invalid
    rwa [commonByConstLvalue_eq (t := t) ha hb, ← commonByValue_eq (t := t) ha hb]

end Table

namespace Catalogue

/-- A class that converts to a class deriving from `Parent` comes to `Parent` on either way, and classes that convert to
each other to nothing. -/
theorem commonType_tiers_toChild_parent :
    ((Object.registered Item.toChild).valid = true ∧ (Object.registered Item.parent).valid = true) ∧
      (table.conditional (rvalue .toChild) (rvalue .parent)).decay = value .parent ∧
      (table.conditional (constLvalue .toChild) (constLvalue .parent)).decay = value .parent ∧
      table.commonType (lvalue .toChild) (value .parent) = value .parent ∧
      (table.commonByValue (value .ping) (value .pong)).valid = false ∧
      (table.commonByConstLvalue (value .ping) (value .pong)).valid = false := by
  have hvalue : (table.conditional (rvalue .toChild) (rvalue .parent)).decay = value .parent := by decide
  have hping : (table.commonByValue (value .ping) (value .pong)).valid = false := by decide
  obtain ⟨hconst, htype⟩ :=
    Table.commonType_tiers (T := table) (.registered .toChild) (.registered .parent) rfl rfl
  obtain ⟨-, hnone⟩ := Table.commonType_tiers (T := table) (.registered .ping) (.registered .pong) rfl rfl
  refine ⟨⟨rfl, rfl⟩, hvalue, hconst.symm.trans hvalue, ?_, hping,
    (hnone (value .ping) (value .pong) rfl rfl).2 hping⟩
  rw [(htype (lvalue .toChild) (value .parent) rfl rfl).1]
  decide

end Catalogue

end Concord
