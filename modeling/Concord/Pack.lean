import Concord.CommonReference

/-!
# Packs

A pack is a list of types. Elements that it does not have read as the sentinel. Common types and common references of
a pack are strict left folds of those of two types, in which a failure stays a failure.
-/

namespace Concord

/-- A list of types that a rule is asked about together. -/
abbrev Pack (ι : Type) := List (Ty ι)

namespace Pack

variable {ι : Type}

/-- The first element, or the sentinel. -/
def first (p : Pack ι) : Ty ι := List.headD p .nonesuch

/-- The pack without its first element; an empty pack stays empty. -/
def rest (p : Pack ι) : Pack ι := List.tail p

/-- The second element, or the sentinel. -/
def second (p : Pack ι) : Ty ι := (rest p).first

@[simp] theorem first_nil : first ([] : Pack ι) = .nonesuch := rfl

@[simp] theorem first_cons (t : Ty ι) (p : Pack ι) : first (t :: p) = t := rfl

@[simp] theorem second_cons_cons (t u : Ty ι) (p : Pack ι) : second (t :: u :: p) = u := rfl

@[simp] theorem rest_cons (t : Ty ι) (p : Pack ι) : rest (t :: p) = p := rfl

end Pack

namespace Table

variable {ι : Type} (T : Table ι)

/-- The common type of a pack. That of a single type is its common type with itself. -/
def commonTypeOf : Pack ι → Ty ι
  | [] => .nonesuch
  | [t] => T.commonType t t
  | t :: u :: p => p.foldl T.commonType (T.commonType t u)

/-- The common reference of a pack. That of a single type is the type as it is spelled. -/
def commonReferenceOf : Pack ι → Ty ι
  | [] => .nonesuch
  | [t] => t
  | t :: u :: p => p.foldl T.commonReference (T.commonReference t u)

/-- A fold of common references from the first element covers packs of one element too. -/
theorem commonReferenceOf_cons (t : Ty ι) (p : Pack ι) :
    T.commonReferenceOf (t :: p) = p.foldl T.commonReference t := by
  cases p <;> rfl

/-- One more element is taken in by the answer for those before it. -/
theorem commonReferenceOf_concat {p : Pack ι} (nonempty : p ≠ []) (u : Ty ι) :
    T.commonReferenceOf (p ++ [u]) = T.commonReference (T.commonReferenceOf p) u := by
  cases p with
  | nil => contradiction
  | cons t p =>
    rw [List.cons_append, commonReferenceOf_cons, commonReferenceOf_cons, List.foldl_append]
    rfl

/-- A fold of common types from the first element covers packs of two or more. -/
theorem commonTypeOf_cons (t : Ty ι) {p : Pack ι} (nonempty : p ≠ []) :
    T.commonTypeOf (t :: p) = p.foldl T.commonType t := by
  cases p with
  | nil => contradiction
  | cons u p => rfl

private theorem foldl_induction_aux {join : Ty ι → Ty ι → Ty ι} {motive : Pack ι → Ty ι → Prop} {p : Pack ι}
    (step : ∀ q u r, q ++ [u] <+: p → motive q r → motive (q ++ [u]) (join r u))
    (seen rest : Pack ι) (hp : p = seen ++ rest) (r : Ty ι) (h : motive seen r) :
    motive p (rest.foldl join r) := by
  induction rest generalizing seen r with
  | nil => rwa [hp, List.append_nil]
  | cons u rest ih =>
    have hseen : p = (seen ++ [u]) ++ rest := by simpa using hp
    exact ih (seen ++ [u]) hseen _ (step seen u r ⟨rest, hseen.symm⟩ h)

variable {T} in
/-- What holds of one element, and of each part of the pack with its answer when one more element is taken in, holds of
the pack with its common reference. -/
theorem commonReferenceOf_induction {motive : Pack ι → Ty ι → Prop} {p : Pack ι} (nonempty : p ≠ [])
    (single : ∀ t ∈ p, motive [t] t)
    (step : ∀ q u r, q ++ [u] <+: p → motive q r → motive (q ++ [u]) (T.commonReference r u)) :
    motive p (T.commonReferenceOf p) := by
  cases p with
  | nil => contradiction
  | cons t rest =>
    rw [commonReferenceOf_cons]
    exact foldl_induction_aux step [t] rest rfl t (single t List.mem_cons_self)

variable {T} in
/-- The same for the common type of two or more elements, where a single element stands for itself. -/
theorem commonTypeOf_induction {motive : Pack ι → Ty ι → Prop} {p : Pack ι} (long : 2 ≤ p.length)
    (single : ∀ t ∈ p, motive [t] t)
    (step : ∀ q u r, q ++ [u] <+: p → motive q r → motive (q ++ [u]) (T.commonType r u)) :
    motive p (T.commonTypeOf p) := by
  cases p with
  | nil => contradiction
  | cons t rest =>
    have nonempty : rest ≠ [] := by
      rintro rfl
      contradiction
    rw [commonTypeOf_cons T t nonempty]
    exact foldl_induction_aux step [t] rest rfl t (single t List.mem_cons_self)

@[simp] theorem commonTypeOf_singleton (t : Ty ι) : T.commonTypeOf [t] = T.commonType t t := rfl

@[simp] theorem commonTypeOf_pair (t u : Ty ι) : T.commonTypeOf [t, u] = T.commonType t u := rfl

@[simp] theorem commonReferenceOf_pair (t u : Ty ι) :
    T.commonReferenceOf [t, u] = T.commonReference t u := rfl

end Table

end Concord
