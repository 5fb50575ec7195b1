/-!
# Qualification and reference kind

What decorates an object in a modeled type: its `const`/`volatile` qualification and its reference kind. Both are
closed sets. Qualifications are ordered by `covers`, with `union` as the join.
-/

namespace Concord

/-- The top-level qualification of a type. -/
structure Cv where
  isConst : Bool
  isVolatile : Bool
  deriving DecidableEq, Repr

namespace Cv

/-- No qualification. -/
def unqualified : Cv := ⟨false, false⟩

/-- Exactly `const`. -/
def const : Cv := ⟨true, false⟩

/-- Exactly `volatile`. -/
def volatile : Cv := ⟨false, true⟩

/-- Both qualifiers. -/
def constVolatile : Cv := ⟨true, true⟩

def withConst (c : Cv) : Cv := { c with isConst := true }

def withVolatile (c : Cv) : Cv := { c with isVolatile := true }

/-- The qualifiers that occur in either operand. -/
def union (c d : Cv) : Cv := ⟨c.isConst || d.isConst, c.isVolatile || d.isVolatile⟩

/-- `c` has every qualifier of `d`. -/
def covers (c d : Cv) : Bool := (c.isConst || !d.isConst) && (c.isVolatile || !d.isVolatile)

/-- The words written before the object's name, each followed by a blank. -/
def lead (c : Cv) : String :=
  (if c.isConst then "const " else "") ++ (if c.isVolatile then "volatile " else "")

@[simp] theorem covers_refl (c : Cv) : c.covers c = true := by
  rcases c with ⟨_ | _, _ | _⟩ <;> rfl

theorem covers_trans {a b c : Cv} (hab : a.covers b = true) (hbc : b.covers c = true) :
    a.covers c = true := by
  rcases a with ⟨_ | _, _ | _⟩ <;> rcases b with ⟨_ | _, _ | _⟩ <;>
    rcases c with ⟨_ | _, _ | _⟩ <;> simp_all [covers]

theorem covers_antisymm {a b : Cv} (hab : a.covers b = true) (hba : b.covers a = true) : a = b := by
  rcases a with ⟨_ | _, _ | _⟩ <;> rcases b with ⟨_ | _, _ | _⟩ <;> simp_all [covers]

/-- Only `const` itself has `const` and no `volatile`. -/
theorem eq_const_of_covers {c : Cv} (h : c.covers const = true) (steady : c.isVolatile = false) : c = const := by
  rcases c with ⟨_ | _, _ | _⟩ <;> simp_all [covers, const]

/-- What is not volatile is covered by `const`. -/
theorem const_covers {c : Cv} (h : c.isVolatile = false) : const.covers c = true := by
  simp [covers, const, h]

theorem union_comm (a b : Cv) : a.union b = b.union a := by
  simp [union, Bool.or_comm]

/-- The union is the least qualification above both operands. -/
theorem covers_union_iff (a b c : Cv) :
    c.covers (a.union b) = true ↔ c.covers a = true ∧ c.covers b = true := by
  rcases a with ⟨_ | _, _ | _⟩ <;> rcases b with ⟨_ | _, _ | _⟩ <;>
    rcases c with ⟨_ | _, _ | _⟩ <;> simp [covers, union]

theorem covers_union_left (a b : Cv) : (a.union b).covers a = true :=
  ((covers_union_iff a b _).1 (covers_refl _)).1

theorem covers_union_right (a b : Cv) : (a.union b).covers b = true :=
  ((covers_union_iff a b _).1 (covers_refl _)).2

/-- A qualification adds nothing to one that covers it. -/
theorem union_eq_right_of_covers {a b : Cv} (h : b.covers a = true) : a.union b = b := by
  apply covers_antisymm (covers_union_right a b)
  exact (covers_union_iff a b b).2 ⟨h, covers_refl b⟩

@[simp] theorem covers_unqualified (c : Cv) : c.covers unqualified = true := by
  simp [covers, unqualified]

/-- Of two qualifications without `volatile`, one that does not cover the other is none. -/
theorem eq_unqualified_of_covers_eq_false {a b : Cv} (h : a.covers b = false) (ha : a.isVolatile = false)
    (hb : b.isVolatile = false) : a = unqualified := by
  rcases a with ⟨_ | _, _ | _⟩ <;> rcases b with ⟨_ | _, _ | _⟩ <;> simp_all [covers, unqualified]

end Cv

/-- The reference kind of a type. For the type of an expression it is the value category: none for a prvalue,
`lvalue` for an lvalue and `rvalue` for an xvalue. -/
inductive RefKind where
  | none
  | lvalue
  | rvalue
  deriving DecidableEq, Repr

namespace RefKind

def isReference : RefKind → Bool
  | none => false
  | _ => true

/-- The kind after `&` is added: always an lvalue reference. -/
def addLvalue (_ : RefKind) : RefKind := lvalue

/-- The kind after `&&` is added: an lvalue reference stays one. -/
def addRvalue : RefKind → RefKind
  | lvalue => lvalue
  | _ => rvalue

/-- The kind of `outer` applied to a type that already has the kind `inner`. -/
def collapse (outer inner : RefKind) : RefKind :=
  match outer with
  | none => inner
  | lvalue => inner.addLvalue
  | rvalue => inner.addRvalue

/-- The qualification of a type of this kind after `added` is applied on top of `inner`: a reference ignores
qualifiers applied to it. -/
def decorate (r : RefKind) (inner added : Cv) : Cv :=
  match r with
  | none => added.union inner
  | _ => inner

/-- The mark written after the object's name. -/
def mark : RefKind → String
  | none => ""
  | lvalue => "&"
  | rvalue => "&&"

end RefKind

end Concord
