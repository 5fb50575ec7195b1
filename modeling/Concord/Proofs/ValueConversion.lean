import Concord.Catalogue.Numbered
import Concord.Proofs.Derivation
import Concord.Proofs.Joins

/-!
# Values and references from one expression

A value is obtained from an expression by a standard conversion alone, or by one registered conversion with a standard
conversion on its other side. The search after an operator asks for the same standard conversion as the search before a
constructor, so where every path through the table takes two registered conversions there is no conversion. A reference
binds to no expression that the value behind it is not obtained from.
-/

namespace Concord

namespace Table

variable {ι : Type} (T : Table ι)

/-- One step from an expression to a value of an object, with the number of registered conversions that it takes. A
constructor takes a value, to which an expression is brought by a standard conversion. -/
inductive ConversionStep : Ty ι → Nat → Object ι → Prop where
  | standard {s : Ty ι} {o : Object ι} (h : T.standardConvertible s o = true) : ConversionStep s 0 o
  | operator {s : Ty ι} {x : Object ι} (registered : x ∈ T.convertsTo s.object) : ConversionStep s 1 x
  | constructor {y o : Object ι} (registered : y ∈ T.convertsFrom o) : ConversionStep (.plain y) 1 o

/-- Steps that follow one another, with the number of registered conversions that they take together. -/
inductive ConversionPath (s : Ty ι) : Nat → Object ι → Prop where
  | single {n : Nat} {o : Object ι} (step : T.ConversionStep s n o) : ConversionPath s n o
  | snoc {m n : Nat} {x o : Object ι} (front : ConversionPath s m x) (last : T.ConversionStep (.plain x) n o) :
      ConversionPath s (m + n) o

variable {T} {s : Ty ι} {o : Object ι}

/-- After an operator the search asks for a standard conversion of the value that the operator gives. -/
theorem anyToward_iff {list : List (Object ι)} :
    T.anyToward list o = true ↔ ∃ x ∈ list, T.standardConvertible (.plain x) o = true := by
  have hsteady (x : Object ι) : T.volatileClass (.plain x) = false := volatileClass_of_cv rfl
  simp only [anyToward, List.any_eq_true, standardConvertible_iff (hsteady _), Bool.or_eq_true, Bool.and_eq_true]
  rfl

theorem valueConvertible_iff :
    T.valueConvertible s o = true ↔
      T.standardConvertible s o = true ∨
        (∃ x ∈ T.convertsTo s.object, T.standardConvertible (.plain x) o = true) ∨
        ∃ y ∈ T.convertsFrom o, T.standardConvertible s y = true := by
  simp only [valueConvertible, Bool.or_eq_true, anyToward_iff, anyFrom, List.any_eq_true]

/-- A value is obtained along a path that takes at most one registered conversion. -/
theorem exists_conversionPath (h : T.valueConvertible s o = true) : ∃ n ≤ 1, T.ConversionPath s n o := by
  rcases valueConvertible_iff.1 h with standard | ⟨x, registered, standard⟩ | ⟨y, registered, standard⟩
  · exact ⟨0, Nat.zero_le 1, .single (.standard standard)⟩
  · exact ⟨1, Nat.le_refl 1, .snoc (.single (.operator registered)) (.standard standard)⟩
  · exact ⟨0 + 1, Nat.le_refl 1, .snoc (.single (.standard standard)) (.constructor registered)⟩

/-- Paths that take at most one registered conversion end in `near` objects, or with that conversion in `far` ones, if no
step leaves them. -/
theorem ConversionPath.confined {near far : Object ι → Prop} {n : Nat}
    (start : ∀ n o, T.ConversionStep s n o → (n = 0 ∧ near o) ∨ (n = 1 ∧ far o))
    (step : ∀ x, near x → ∀ n o, T.ConversionStep (.plain x) n o → (n = 0 ∧ near o) ∨ (n = 1 ∧ far o))
    (standard : ∀ x, far x → ∀ o, T.standardConvertible (.plain x) o = true → far o)
    (path : T.ConversionPath s n o) : (n = 0 ∧ near o) ∨ (n = 1 ∧ far o) ∨ 2 ≤ n := by
  induction path with
  | single first => exact (start _ _ first).imp_right Or.inl
  | @snoc m n x o front last ih =>
    rcases ih with ⟨rfl, hx⟩ | ⟨rfl, hx⟩ | long
    · rw [Nat.zero_add]
      exact (step x hx _ _ last).imp_right Or.inl
    · -- A second registered conversion makes two, so only a standard one can go on from here.
      cases last with
      | standard h => exact Or.inr (Or.inl ⟨rfl, standard x hx _ h⟩)
      | operator => exact Or.inr (Or.inr (Nat.le_refl 2))
      | constructor => exact Or.inr (Or.inr (Nat.le_refl 2))
    · exact Or.inr (Or.inr (Nat.le_add_right_of_le long))

theorem standardConvertible_iff_derives (acyclic : T.Acyclic) (distinct : T.Distinct) :
    T.standardConvertible s o = true ↔
      (T.Derives s.object o ∧ T.volatileClass s = false) ∨
        (T.isArithmetic s.object = true ∧ T.isArithmetic o = true) := by
  simp only [standardConvertible, Bool.or_eq_true, Bool.and_eq_true, Bool.not_eq_true', volatileClass,
    sameOrDerived_iff acyclic distinct]

/-- A value conversion is a standard conversion, or a registered conversion of the source's object or of the target with a
standard conversion on its other side. The standard conversion is one relation throughout: a copy or slice of what is no
volatile class, or a computation between numbers. Where every path takes two registered conversions there is none. -/
theorem conversion_unchained (acyclic : T.Acyclic) (distinct : T.Distinct) (s : Ty ι) (o : Object ι) :
    (T.valueConvertible s o = true ↔
        T.standardConvertible s o = true ∨
          (∃ x ∈ T.convertsTo s.object, T.standardConvertible (.plain x) o = true) ∨
          ∃ y ∈ T.convertsFrom o, T.standardConvertible s y = true) ∧
      (∀ (t : Ty ι) (p : Object ι), T.standardConvertible t p = true ↔
        (T.Derives t.object p ∧ T.volatileClass t = false) ∨
          (T.isArithmetic t.object = true ∧ T.isArithmetic p = true)) ∧
      ((∀ n, T.ConversionPath s n o → 2 ≤ n) → T.convertible s (.plain o) = false) := by
  refine ⟨valueConvertible_iff, fun t p => standardConvertible_iff_derives acyclic distinct, fun long => ?_⟩
  have hvalue : T.valueConvertible s o = false := by
    rw [← Bool.not_eq_true]
    intro h
    obtain ⟨n, short, path⟩ := exists_conversionPath h
    have := long n path
    omega
  rw [convertible_plain, hvalue, Bool.and_false]

/-! ## References -/

section Reference

variable (ho : o.valid = true)

include ho

theorem convertible_constLvalue (s : Ty ι) :
    T.convertible s (Ty.plain o).constLvalue =
      (s.valid && if T.sameOrDerived s.object o then Cv.const.covers s.cv else T.valueConvertible s o) := by
  have hcv : (Ty.plain o).constLvalue.cv = .const := Ty.cv_build_of_valid ho _ _
  have hkind : (Ty.plain o).constLvalue.kind = .lvalue := Ty.kind_build_of_valid ho _ _
  have hvalid : (Ty.plain o).constLvalue.valid = true := (Ty.valid_constLvalue _).trans ho
  have hobject : (Ty.plain o).constLvalue.object = o := Ty.object_constLvalue _
  by_cases related : T.sameOrDerived s.object o = true
  · simp [convertible, refCompatible, refRelated, hcv, hkind, hvalid, hobject, related]
  · simp [convertible, refRelated, hcv, hkind, hvalid, hobject, related]

theorem convertible_addLvalueReference (s : Ty ι) :
    T.convertible s (Ty.plain o).addLvalueReference =
      (s.valid && (s.isLvalue && (T.sameOrDerived s.object o && Cv.unqualified.covers s.cv))) := by
  have hcv : (Ty.plain o).addLvalueReference.cv = .unqualified := Ty.cv_build_of_valid ho _ _
  have hkind : (Ty.plain o).addLvalueReference.kind = .lvalue := Ty.kind_build_of_valid ho _ _
  have hvalid : (Ty.plain o).addLvalueReference.valid = true := (Ty.valid_build _ _ _).trans ho
  have hobject : (Ty.plain o).addLvalueReference.object = o := Ty.object_addLvalueReference _
  have hconst : Cv.unqualified ≠ .const := by decide
  simp [convertible, refCompatible, refRelated, hcv, hkind, hvalid, hobject, hconst]

theorem convertible_rvalue (s : Ty ι) :
    T.convertible s (Ty.plain o).rvalue =
      (s.valid && if T.sameOrDerived s.object o then !s.isLvalue && Cv.unqualified.covers s.cv
        else T.valueConvertible s o) := by
  have hcv : (Ty.plain o).rvalue.cv = .unqualified := Ty.cv_rvalue_of_valid ho
  have hkind : (Ty.plain o).rvalue.kind = .rvalue := Ty.kind_rvalue_of_valid ho
  have hvalid : (Ty.plain o).rvalue.valid = true := (Ty.valid_rvalue _).trans ho
  have hobject : (Ty.plain o).rvalue.object = o := Ty.object_rvalue _
  by_cases related : T.sameOrDerived s.object o = true
  · simp [convertible, refCompatible, refRelated, hcv, hkind, hvalid, hobject, related]
  · simp [convertible, refRelated, hkind, hvalid, hobject, related]

/-- A reference that is exactly `const` takes all that the value is obtained from, unless it would bind to something
volatile. -/
theorem convertible_constLvalue_iff :
    T.convertible s (Ty.plain o).constLvalue = true ↔
      T.convertible s (.plain o) = true ∧ (T.sameOrDerived s.object o = true → s.cv.isVolatile = false) := by
  have hcovers : Cv.const.covers s.cv = true ↔ s.cv.isVolatile = false := by
    simp [Cv.covers, Cv.const]
  rw [convertible_constLvalue ho, convertible_plain, ho, Bool.and_true, Bool.and_eq_true, Bool.and_eq_true]
  by_cases related : T.sameOrDerived s.object o = true
  · rw [if_pos related, hcovers]
    constructor
    · rintro ⟨hs, steady⟩
      exact ⟨⟨hs, valueConvertible_of_sameOrDerived (volatileClass_of_cv steady) related⟩, fun _ => steady⟩
    · rintro ⟨⟨hs, -⟩, steady⟩
      exact ⟨hs, steady related⟩
  · rw [if_neg related]
    exact (and_iff_left fun h => absurd h related).symm

/-- A related expression that binds without qualifiers binds under `const`. -/
theorem convertible_constLvalue_of_covers (hs : s.valid = true) (related : T.sameOrDerived s.object o = true)
    (covers : Cv.unqualified.covers s.cv = true) : T.convertible s (Ty.plain o).constLvalue = true := by
  rw [convertible_constLvalue ho, hs, if_pos related, Bool.true_and]
  exact Cv.covers_trans (Cv.covers_unqualified .const) covers

theorem convertible_constLvalue_of_lvalue (h : T.convertible s (Ty.plain o).addLvalueReference = true) :
    T.convertible s (Ty.plain o).constLvalue = true := by
  simp only [convertible_addLvalueReference ho, Bool.and_eq_true] at h
  obtain ⟨hs, -, related, covers⟩ := h
  exact convertible_constLvalue_of_covers ho hs related covers

/-- To an unrelated object both references bind by way of a value. -/
theorem convertible_constLvalue_of_rvalue (h : T.convertible s (Ty.plain o).rvalue = true) :
    T.convertible s (Ty.plain o).constLvalue = true := by
  rw [convertible_rvalue ho, Bool.and_eq_true] at h
  obtain ⟨hs, h⟩ := h
  by_cases related : T.sameOrDerived s.object o = true
  · rw [if_pos related, Bool.and_eq_true] at h
    exact convertible_constLvalue_of_covers ho hs related h.2
  · rw [if_neg related] at h
    rw [convertible_constLvalue ho, hs, if_neg related, h]
    rfl

end Reference

/-- Binding asks for at least as much as copying: what binds to a reference without qualifiers binds to one that is
`const`, and from what binds to that the value is obtained. The other way round a `const` reference refuses only what is
volatile and is of its object or derives from it. -/
theorem binding_within_copying (acyclic : T.Acyclic) (distinct : T.Distinct) (s : Ty ι) (o : Object ι)
    (ho : o.valid = true) :
    (T.convertible s (Ty.plain o).rvalue = true → T.convertible s (Ty.plain o).constLvalue = true) ∧
      (T.convertible s (Ty.plain o).addLvalueReference = true → T.convertible s (Ty.plain o).constLvalue = true) ∧
      (T.convertible s (Ty.plain o).constLvalue = true → T.convertible s (.plain o) = true) ∧
      (s.cv.isVolatile = false →
        (T.convertible s (Ty.plain o).constLvalue = true ↔ T.convertible s (.plain o) = true)) ∧
      (T.convertible s (Ty.plain o).constLvalue = true ↔
        T.convertible s (.plain o) = true ∧ (T.Derives s.object o → s.cv.isVolatile = false)) := by
  have frontier := convertible_constLvalue_iff (T := T) (s := s) ho
  refine ⟨convertible_constLvalue_of_rvalue ho, convertible_constLvalue_of_lvalue ho, ?_, ?_, ?_⟩
  · exact fun h => (frontier.1 h).1
  · intro steady
    rw [frontier]
    exact and_iff_left fun _ => steady
  · rw [frontier, sameOrDerived_iff acyclic distinct]

end Table

namespace Catalogue

/-- Numbers derive from numbers only. -/
theorem isArithmetic_of_derives {x o : Object Item} (derives : separated.Derives x o)
    (hx : separated.isArithmetic x = true) : separated.isArithmetic o = true := by
  refine derives.preserves (motive := (separated.isArithmetic · = true)) ?_ hx
  intro a
  cases a with
  | nonesuch => exact fun h => absurd h (by decide)
  | registered i => cases i <;> decide

theorem isArithmetic_of_standardConvertible {x o : Object Item} (hx : separated.isArithmetic x = true)
    (h : separated.standardConvertible (.plain x) o = true) : separated.isArithmetic o = true := by
  rcases (Table.standardConvertible_iff_derives separated_acyclic separated_distinct).1 h with ⟨derives, -⟩ | ⟨-, ho⟩
  · exact isArithmetic_of_derives derives hx
  · exact ho

theorem eq_toInt_of_standardConvertible {o : Object Item}
    (h : separated.standardConvertible (value .toInt) o = true) : o = object .toInt := by
  rcases (Table.standardConvertible_iff_derives separated_acyclic separated_distinct).1 h with ⟨derives, -⟩ | ⟨number, -⟩
  · rcases Table.derives_iff.1 derives with same | ⟨b, base, -⟩
    · exact same.symm
    · exact absurd base List.not_mem_nil
  · exact absurd number (by decide)

/-- No constructor takes the class with an operator to a number. -/
theorem toInt_not_mem_convertsFrom (o : Object Item) : object .toInt ∉ separated.convertsFrom o := by
  cases o with
  | nonesuch => exact List.not_mem_nil
  | registered i => cases i <;> decide

/-- One step leads from the class with an operator to itself or to a number. -/
theorem conversionStep_toInt {n : Nat} {o : Object Item} (step : separated.ConversionStep (value .toInt) n o) :
    (n = 0 ∧ o = object .toInt) ∨ (n = 1 ∧ separated.isArithmetic o = true) := by
  cases step with
  | standard h => exact Or.inl ⟨rfl, eq_toInt_of_standardConvertible h⟩
  | operator registered =>
    have hi32 : o = object .i32 := List.mem_singleton.1 registered
    rw [hi32]
    exact Or.inr ⟨rfl, by decide⟩
  | constructor registered => exact absurd registered (toInt_not_mem_convertsFrom o)

theorem conversionPath_toInt {n : Nat} {o : Object Item} (path : separated.ConversionPath (value .toInt) n o) :
    (n = 0 ∧ o = object .toInt) ∨ (n = 1 ∧ separated.isArithmetic o = true) ∨ 2 ≤ n := by
  apply path.confined
  · exact fun _ _ => conversionStep_toInt
  · rintro x rfl _ _ step
    exact conversionStep_toInt step
  · exact fun _ hx _ => isArithmetic_of_standardConvertible hx

/-- An operator to a number and a constructor from one do not make a conversion together. -/
theorem conversion_unchained_toInt_switch :
    let s := value .toInt
    let o := object .switch
    (separated.Acyclic ∧ separated.Distinct ∧ ∀ n, separated.ConversionPath s n o → 2 ≤ n) ∧
      separated.ConversionPath s 2 o ∧ separated.convertible s (.plain o) = false ∧
      separated.valueConvertible s (object .i64) = true ∧ separated.valueConvertible (value .i64) o = true := by
  intro s o
  have hlong : ∀ n, separated.ConversionPath s n o → 2 ≤ n := by
    intro n path
    rcases conversionPath_toInt path with ⟨-, same⟩ | ⟨-, number⟩ | long
    · exact absurd same (by decide)
    · exact absurd number (by decide)
    · exact long
  have hnumber : separated.ConversionStep s 1 (object .i32) := .operator (List.mem_singleton_self _)
  have hcomputed : separated.ConversionStep (value .i32) 0 (object .u8) := .standard (by decide)
  have htaken : separated.ConversionStep (value .u8) 1 o := .constructor (by decide)
  have hpath : separated.ConversionPath s 2 o := .snoc (.snoc (.single hnumber) hcomputed) htaken
  obtain ⟨-, -, hnone⟩ := Table.conversion_unchained separated_acyclic separated_distinct s o
  obtain ⟨hoperator, -, -⟩ := Table.conversion_unchained separated_acyclic separated_distinct s (object .i64)
  obtain ⟨hconstructor, -, -⟩ := Table.conversion_unchained separated_acyclic separated_distinct (value .i64) o
  refine ⟨⟨separated_acyclic, separated_distinct, hlong⟩, hpath, hnone hlong, ?_, ?_⟩
  · exact hoperator.2 (Or.inr (Or.inl ⟨object .i32, by decide, by decide⟩))
  · exact hconstructor.2 (Or.inr (Or.inr ⟨object .u8, by decide, by decide⟩))

/-- Along a chain of bases an rvalue binds and is copied, and a volatile number is copied but does not bind. -/
theorem binding_within_copying_child_parent :
    let s := rvalue .child
    let number := (value .i32).addVolatile.addLvalueReference
    (separated.Acyclic ∧ separated.Distinct ∧ (object .parent).valid = true ∧ (object .i32).valid = true ∧
        s.cv.isVolatile = false) ∧
      (separated.convertible s (rvalue .parent) = true ∧ separated.convertible s (constLvalue .parent) = true ∧
        separated.convertible s (value .parent) = true) ∧
      (separated.Derives number.object (object .i32) ∧ number.cv.isVolatile = true) ∧
      separated.convertible number (value .i32) = true ∧ separated.convertible number (constLvalue .i32) = false := by
  intro s number
  have steady : s.cv.isVolatile = false := by decide
  have hrvalue : separated.convertible s (rvalue .parent) = true := by decide
  have hcopy : separated.convertible number (value .i32) = true := by decide
  have hvolatile : number.cv.isVolatile = true := by decide
  obtain ⟨hbinds, -, -, hiff, -⟩ :=
    Table.binding_within_copying separated_acyclic separated_distinct s (object .parent) rfl
  obtain ⟨-, -, -, -, hfrontier⟩ :=
    Table.binding_within_copying separated_acyclic separated_distinct number (object .i32) rfl
  have hconst : separated.convertible s (constLvalue .parent) = true := hbinds hrvalue
  have hderives : separated.Derives number.object (object .i32) := .refl _
  refine ⟨⟨separated_acyclic, separated_distinct, rfl, rfl, steady⟩, ⟨hrvalue, hconst, (hiff steady).1 hconst⟩,
    ⟨hderives, hvolatile⟩, hcopy, ?_⟩
  rw [← Bool.not_eq_true]
  intro h
  have hsteady := (hfrontier.1 h).2 hderives
  rw [hvolatile] at hsteady
  contradiction

end Catalogue

end Concord
