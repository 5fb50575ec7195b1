import Concord.Ty.Basic

/-!
# Transforms

The operations that change the decoration of a type and leave its object. Their results are canonical, because they are
objects alone or go through `build`. The object decides validity, so an invalid type stays invalid; the source of a cross
reference lends only its decoration.
-/

namespace Concord

namespace Ty

variable {ι : Type}

/-- The object alone: no reference, no qualification. -/
def removeCvref (t : Ty ι) : Ty ι := plain t.object

/-- The type of a value initialised from an expression of type `t`. There are no arrays or functions, so this removes
all decoration. -/
def decay (t : Ty ι) : Ty ι := plain t.object

def removeReference (t : Ty ι) : Ty ι := build t.object t.cv .none

/-- Qualifiers are added; a reference ignores them. -/
def addCv (t : Ty ι) (c : Cv) : Ty ι := build t.object (t.kind.decorate t.cv c) t.kind

def addConst (t : Ty ι) : Ty ι := t.addCv .const

def addVolatile (t : Ty ι) : Ty ι := t.addCv .volatile

def addLvalueReference (t : Ty ι) : Ty ι := build t.object t.cv t.kind.addLvalue

def addRvalueReference (t : Ty ι) : Ty ι := build t.object t.cv t.kind.addRvalue

/-- `target` with the qualifiers of `source` added. -/
def copyCv (source target : Ty ι) : Ty ι :=
  if source.valid then target.addCv source.cv else nonesuch

/-- The lvalue reference to the referent made `const`. -/
def constLvalue (t : Ty ι) : Ty ι := build t.object t.cv.withConst .lvalue

/-- The lvalue reference to a type made `const`. Other than `constLvalue` it leaves the referent of a reference as it
is. -/
def asConstLvalue (t : Ty ι) : Ty ι := t.addConst.addLvalueReference

/-- The rvalue reference to the referent. -/
def rvalue (t : Ty ι) : Ty ι := build t.object t.cv .rvalue

/-- The decorations of `source` applied to `target`: its referent's qualifiers, then its reference kind. -/
def crossReference (source target : Ty ι) : Ty ι :=
  build target.object (target.kind.decorate target.cv source.cv) (source.kind.collapse target.kind)

@[simp] theorem object_removeCvref (t : Ty ι) : t.removeCvref.object = t.object := rfl

@[simp] theorem object_decay (t : Ty ι) : t.decay.object = t.object := rfl

@[simp] theorem object_removeReference (t : Ty ι) : t.removeReference.object = t.object :=
  object_build _ _ _

@[simp] theorem object_addCv (t : Ty ι) (c : Cv) : (t.addCv c).object = t.object :=
  object_build _ _ _

@[simp] theorem object_addConst (t : Ty ι) : t.addConst.object = t.object := object_build _ _ _

@[simp] theorem object_addVolatile (t : Ty ι) : t.addVolatile.object = t.object := object_build _ _ _

@[simp] theorem object_addLvalueReference (t : Ty ι) : t.addLvalueReference.object = t.object :=
  object_build _ _ _

@[simp] theorem object_addRvalueReference (t : Ty ι) : t.addRvalueReference.object = t.object :=
  object_build _ _ _

@[simp] theorem object_constLvalue (t : Ty ι) : t.constLvalue.object = t.object :=
  object_build _ _ _

@[simp] theorem object_asConstLvalue (t : Ty ι) : t.asConstLvalue.object = t.object := by
  simp [asConstLvalue]

@[simp] theorem object_rvalue (t : Ty ι) : t.rvalue.object = t.object := object_build _ _ _

@[simp] theorem object_crossReference (s t : Ty ι) : (s.crossReference t).object = t.object :=
  object_build _ _ _

@[simp] theorem valid_removeReference (t : Ty ι) : t.removeReference.valid = t.valid := valid_build _ _ _

@[simp] theorem kind_removeReference (t : Ty ι) : t.removeReference.kind = .none := kind_build_none _ _

theorem cv_removeReference_of_valid {t : Ty ι} (h : t.valid = true) : t.removeReference.cv = t.cv :=
  cv_build_of_valid h _ _

@[simp] theorem valid_addConst (t : Ty ι) : t.addConst.valid = t.valid := valid_build _ _ _

theorem kind_addConst_of_valid {t : Ty ι} (h : t.valid = true) : t.addConst.kind = t.kind :=
  kind_build_of_valid h _ _

/-- A type that is no reference gets the qualifier itself. -/
theorem cv_addConst_of_valid {t : Ty ι} (h : t.valid = true) (hkind : t.kind = .none) :
    t.addConst.cv = Cv.const.union t.cv := by
  rw [addConst, addCv, cv_build_of_valid h, hkind]
  rfl

@[simp] theorem valid_constLvalue (t : Ty ι) : t.constLvalue.valid = t.valid := valid_build _ _ _

@[simp] theorem valid_rvalue (t : Ty ι) : t.rvalue.valid = t.valid := valid_build _ _ _

theorem kind_rvalue_of_valid {t : Ty ι} (h : t.valid = true) : t.rvalue.kind = .rvalue :=
  kind_build_of_valid h _ _

@[simp] theorem isLvalue_rvalue (t : Ty ι) : t.rvalue.isLvalue = false := by
  cases h : t.valid with
  | false =>
    have hnonesuch : t.rvalue = nonesuch := (canonical_build _ _ _).eq_nonesuch (by rwa [valid_build])
    rw [hnonesuch]
    rfl
  | true => simp [isLvalue, kind_rvalue_of_valid h]

theorem cv_rvalue_of_valid {t : Ty ι} (h : t.valid = true) : t.rvalue.cv = t.cv := cv_build_of_valid h _ _

theorem rvalue_build (o : Object ι) (c : Cv) (k : RefKind) : (build o c k).rvalue = build o c .rvalue := by
  cases o with
  | nonesuch =>
    rw [build_nonesuch, build_nonesuch]
    exact build_nonesuch _ _
  | registered i => rw [rvalue, object_build, cv_build_of_valid rfl]

theorem removeReference_build (o : Object ι) (c : Cv) (k : RefKind) :
    (build o c k).removeReference = build o c .none := by
  cases o with
  | nonesuch =>
    rw [build_nonesuch, build_nonesuch]
    exact build_nonesuch _ _
  | registered i => rw [removeReference, object_build, cv_build_of_valid rfl]

theorem removeReference_rvalue {t : Ty ι} (h : t.valid = true) : t.rvalue.removeReference = t.removeReference := by
  rw [removeReference, object_rvalue, cv_rvalue_of_valid h, removeReference]

/-- A valid rvalue reference is the one to its own referent. -/
theorem rvalue_removeReference {t : Ty ι} (h : t.valid = true) (hkind : t.kind = .rvalue) :
    t.removeReference.rvalue = t := by
  have reference : t.isReference = true := isReference_iff.2 (Or.inr hkind)
  rw [removeReference, rvalue_build, ← hkind]
  exact canon_of_isReference h reference

theorem copyCv_of_valid {s : Ty ι} (h : s.valid = true) (t : Ty ι) : s.copyCv t = t.addCv s.cv := by
  simp [copyCv, h]

theorem copyCv_of_invalid {s : Ty ι} (h : s.valid = false) (t : Ty ι) : s.copyCv t = nonesuch := by
  simp [copyCv, h]

end Ty

end Concord
