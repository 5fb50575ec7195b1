import Concord.Qualifier

/-!
# Modeled types

A modeled type is an object with a qualification and a reference kind. The type keeps how it was spelled: an object
alone, or an object with explicit decorations, which may be trivial. Failure is a type too, the sentinel `nonesuch`;
decorating it gives further invalid types. Each type has one canonical spelling, which `canon` computes and `Canonical`
describes.
-/

namespace Concord

/-- An object of a registration table over the names `ι`, or the failure sentinel. -/
inductive Object (ι : Type) where
  | nonesuch
  | registered (name : ι)
  deriving DecidableEq, Repr

namespace Object

variable {ι : Type}

/-- Every object except the sentinel is valid. -/
def valid : Object ι → Bool
  | nonesuch => false
  | registered _ => true

@[simp] theorem valid_registered (i : ι) : (registered i).valid = true := rfl

@[simp] theorem valid_nonesuch : (nonesuch : Object ι).valid = false := rfl

theorem valid_eq_false_iff {o : Object ι} : o.valid = false ↔ o = nonesuch := by
  cases o <;> simp

end Object

/-- A modeled type as it is spelled. -/
inductive Ty (ι : Type) where
  /-- An object without decoration. -/
  | plain (object : Object ι)
  /-- An object with explicit, possibly trivial, decorations. -/
  | qualified (object : Object ι) (cv : Cv) (kind : RefKind)
  deriving DecidableEq, Repr

namespace Ty

variable {ι : Type}

/-- The failure sentinel as a type. -/
def nonesuch : Ty ι := .plain .nonesuch

/-- The object under the decorations. -/
def object : Ty ι → Object ι
  | plain o => o
  | qualified o _ _ => o

/-- The qualification of the type, or of the referent of a reference. -/
def cv : Ty ι → Cv
  | plain _ => .unqualified
  | qualified _ c _ => c

def kind : Ty ι → RefKind
  | plain _ => .none
  | qualified _ _ k => k

/-- A type is valid if its object is. -/
def valid (t : Ty ι) : Bool := t.object.valid

def isReference (t : Ty ι) : Bool := t.kind.isReference

def isLvalue (t : Ty ι) : Bool := t.kind == .lvalue

/-- The type of an xvalue: an rvalue reference. -/
def isXvalue (t : Ty ι) : Bool := t.kind == .rvalue

/-- The type of a prvalue: no reference. -/
def isPrvalue (t : Ty ι) : Bool := t.kind == .none

/-- The canonical spelling of an object with the given decorations: the object alone if they are trivial, the sentinel
if they decorate the sentinel. -/
def build (o : Object ι) (c : Cv) (k : RefKind) : Ty ι :=
  if c = .unqualified ∧ k = .none then plain o
  else if o.valid then qualified o c k
  else nonesuch

/-- The canonical spelling of a type. -/
def canon (t : Ty ι) : Ty ι := build t.object t.cv t.kind

/-- A spelling is canonical if it is an object alone, or a valid object with a decoration that is not trivial. -/
inductive Canonical : Ty ι → Prop where
  | plain (o : Object ι) : Canonical (plain o)
  | qualified {o : Object ι} {c : Cv} {k : RefKind} (valid : o.valid = true)
      (decorated : c ≠ .unqualified ∨ k ≠ .none) : Canonical (qualified o c k)

/-- `t` if it is valid, otherwise `next`. -/
def orElse (t : Ty ι) (next : Unit → Ty ι) : Ty ι := if t.valid then t else next ()

/-- One of two types, as a condition holds or not. -/
def select (condition : Bool) (t u : Ty ι) : Ty ι := if condition then t else u

theorem isLvalue_iff {t : Ty ι} : t.isLvalue = true ↔ t.kind = .lvalue := beq_iff_eq

theorem isXvalue_iff {t : Ty ι} : t.isXvalue = true ↔ t.kind = .rvalue := beq_iff_eq

theorem isReference_iff {t : Ty ι} : t.isReference = true ↔ t.kind = .lvalue ∨ t.kind = .rvalue := by
  cases hkind : t.kind <;> simp [isReference, hkind, RefKind.isReference]

theorem isReference_eq_false_iff {t : Ty ι} : t.isReference = false ↔ t.kind = .none := by
  cases hkind : t.kind <;> simp [isReference, hkind, RefKind.isReference]

@[simp] theorem valid_nonesuch : (nonesuch : Ty ι).valid = false := rfl

@[simp] theorem canonical_nonesuch : Canonical (nonesuch : Ty ι) := .plain _

theorem canonical_build (o : Object ι) (c : Cv) (k : RefKind) : Canonical (build o c k) := by
  unfold build
  split
  · exact .plain o
  · split
    · rename_i h hv
      refine .qualified hv ?_
      by_cases hc : c = .unqualified
      · exact .inr fun hk => h ⟨hc, hk⟩
      · exact .inl hc
    · exact canonical_nonesuch

theorem canonical_canon (t : Ty ι) : Canonical t.canon := canonical_build _ _ _

/-- A canonical spelling is its own canonical form. -/
theorem canon_eq_of_canonical {t : Ty ι} (h : Canonical t) : t.canon = t := by
  cases h with
  | plain o => simp [canon, build, cv, kind, object]
  | qualified valid decorated =>
    simp only [canon, build, cv, kind, object, valid, if_true]
    rw [if_neg]
    rintro ⟨hc, hk⟩
    rcases decorated with h | h <;> contradiction

@[simp] theorem object_build (o : Object ι) (c : Cv) (k : RefKind) : (build o c k).object = o := by
  unfold build
  split
  · rfl
  · split
    · rfl
    · rename_i hv
      cases o with
      | nonesuch => rfl
      | registered _ => simp at hv

@[simp] theorem valid_build (o : Object ι) (c : Cv) (k : RefKind) : (build o c k).valid = o.valid := by
  rw [valid, object_build]

@[simp] theorem build_nonesuch (c : Cv) (k : RefKind) : build (.nonesuch : Object ι) c k = nonesuch := by
  unfold build
  split <;> rfl

theorem build_of_invalid {o : Object ι} (h : o.valid = false) (c : Cv) (k : RefKind) : build o c k = nonesuch := by
  rw [Object.valid_eq_false_iff.1 h, build_nonesuch]

theorem cv_build_of_valid {o : Object ι} (h : o.valid = true) (c : Cv) (k : RefKind) :
    (build o c k).cv = c := by
  unfold build
  split
  · rename_i hk
    exact hk.1.symm
  · rfl

theorem kind_build_of_valid {o : Object ι} (h : o.valid = true) (c : Cv) (k : RefKind) :
    (build o c k).kind = k := by
  unfold build
  split
  · rename_i hk
    exact hk.2.symm
  · rfl

/-- Not even the sentinel, which loses its decoration, becomes volatile. -/
theorem isVolatile_build (o : Object ι) {c : Cv} (k : RefKind) (h : c.isVolatile = false) :
    (build o c k).cv.isVolatile = false := by
  unfold build
  split
  · rfl
  · split
    · exact h
    · rfl

@[simp] theorem kind_build_none (o : Object ι) (c : Cv) : (build o c .none).kind = .none := by
  unfold build
  split
  · rfl
  · split <;> rfl

@[simp] theorem object_canon (t : Ty ι) : t.canon.object = t.object := object_build _ _ _

@[simp] theorem canon_build (o : Object ι) (c : Cv) (k : RefKind) : (build o c k).canon = build o c k :=
  canon_eq_of_canonical (canonical_build o c k)

@[simp] theorem valid_canon (t : Ty ι) : t.canon.valid = t.valid := valid_build _ _ _

theorem cv_canon_of_valid {t : Ty ι} (h : t.valid = true) : t.canon.cv = t.cv := cv_build_of_valid h _ _

theorem kind_canon_of_valid {t : Ty ι} (h : t.valid = true) : t.canon.kind = t.kind :=
  kind_build_of_valid h _ _

/-- A valid reference is spelled in one way only. -/
theorem canon_of_isReference {t : Ty ι} (h : t.valid = true) (reference : t.isReference = true) : t.canon = t := by
  apply canon_eq_of_canonical
  cases t with
  | plain o => contradiction
  | qualified o c k =>
    refine .qualified h (.inr ?_)
    rintro rfl
    contradiction

theorem Canonical.eq_nonesuch {t : Ty ι} (h : Canonical t) (invalid : t.valid = false) : t = nonesuch := by
  cases h with
  | plain o =>
    have hobject : o = .nonesuch := Object.valid_eq_false_iff.1 invalid
    rw [hobject, nonesuch]
  | qualified valid _ => simp [Ty.valid, object, valid] at invalid

@[simp] theorem isReference_nonesuch : (nonesuch : Ty ι).isReference = false := rfl

@[simp] theorem orElse_of_valid {t : Ty ι} (h : t.valid = true) (next : Unit → Ty ι) : t.orElse next = t := by
  simp [orElse, h]

@[simp] theorem orElse_of_invalid {t : Ty ι} (h : t.valid = false) (next : Unit → Ty ι) :
    t.orElse next = next () := by
  simp [orElse, h]

end Ty

end Concord
