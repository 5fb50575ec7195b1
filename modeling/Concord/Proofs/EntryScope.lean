import Concord.Catalogue.Numbered
import Concord.CommonReference
import Concord.Concept.Comparison
import Concord.Proofs.ConversionScope

/-!
# What an entry has an effect on

An entry is an entry of one object for another. `withoutEntries` takes all of them out of a table; the rules that give
the same answers afterwards read none. Only common types and common references are left, and they read one entry each:
the first one of the first operand's object for the object of the second.
-/

namespace Concord

variable {ι : Type}

/-- The registration without its entries for common types and common references. -/
def Registration.withoutEntries (r : Registration ι) : Registration ι :=
  { r with commonTypes := [], commonReferences := [] }

theorem Registration.Builtin.withoutEntries {r : Registration ι} {k : Kind} (builtin : r.Builtin k) :
    r.withoutEntries.Builtin k :=
  { builtin with commonTypes_eq := rfl, commonReferences_eq := rfl }

namespace Table

/-- The table in which no object has an entry. Two tables agree on everything except entries if without them they are
the same. -/
def withoutEntries (T : Table ι) : Table ι where
  registration i := (T.registration i).withoutEntries
  members := T.members
  mem_members := T.mem_members
  promoted := T.promoted
  promoted_builtin r := by
    obtain ⟨i, hi, builtin⟩ := T.promoted_builtin r
    exact ⟨i, hi, builtin.withoutEntries⟩
  truth := T.truth
  truth_builtin := by
    obtain ⟨i, hi, builtin⟩ := T.truth_builtin
    exact ⟨i, hi, builtin.withoutEntries⟩

theorem withoutEntries_eq_of_registration {T T' : Table ι}
    (registration : ∀ i, (T.registration i).withoutEntries = (T'.registration i).withoutEntries)
    (members : T.members = T'.members) (promoted : T.promoted = T'.promoted) (truth : T.truth = T'.truth) :
    T.withoutEntries = T'.withoutEntries := by
  have hregistration : (fun i => (T.registration i).withoutEntries) =
      fun i => (T'.registration i).withoutEntries := funext registration
  simp only [withoutEntries, hregistration, members, promoted, truth]

section Rules

variable (T : Table ι)

/-- A conversion reads no entry. -/
theorem convertsAlike_withoutEntries : T.withoutEntries.ConvertsAlike T :=
  ⟨rfl, rfl, rfl, rfl, rfl, rfl, rfl⟩

theorem isDerived_withoutEntries : T.withoutEntries.isDerived = T.isDerived :=
  T.convertsAlike_withoutEntries.isDerived_eq

theorem sameOrDerived_withoutEntries : T.withoutEntries.sameOrDerived = T.sameOrDerived :=
  T.convertsAlike_withoutEntries.sameOrDerived_eq

theorem isBaseOf_withoutEntries : T.withoutEntries.isBaseOf = T.isBaseOf := by
  funext b d
  simp only [isBaseOf, sameOrDerived_withoutEntries]
  rfl

theorem refCompatible_withoutEntries : T.withoutEntries.refCompatible = T.refCompatible :=
  T.convertsAlike_withoutEntries.refCompatible_eq

theorem standardConvertible_withoutEntries : T.withoutEntries.standardConvertible = T.standardConvertible :=
  T.convertsAlike_withoutEntries.standardConvertible_eq

theorem valueConvertible_withoutEntries : T.withoutEntries.valueConvertible = T.valueConvertible :=
  T.convertsAlike_withoutEntries.valueConvertible_eq

theorem convertible_withoutEntries : T.withoutEntries.convertible = T.convertible :=
  T.convertsAlike_withoutEntries.convertible_eq

theorem bindsDirectly_withoutEntries : T.withoutEntries.bindsDirectly = T.bindsDirectly := by
  funext t u
  simp only [bindsDirectly, refCompatible_withoutEntries]
  rfl

theorem converts_withoutEntries : T.withoutEntries.converts = T.converts := by
  funext t u
  simp only [converts, prvalueApplies, prvalueConverts, classesRelated, bindsDirectly_withoutEntries,
    sameOrDerived_withoutEntries, convertible_withoutEntries]
  rfl

theorem convertedTo_withoutEntries : T.withoutEntries.convertedTo = T.convertedTo := by
  funext t u
  simp only [convertedTo, bindsDirectly_withoutEntries]
  rfl

theorem finish_withoutEntries : T.withoutEntries.finish = T.finish := rfl

theorem conditional_withoutEntries : T.withoutEntries.conditional = T.conditional := by
  funext t u
  simp only [conditional, convertOne, converts_withoutEntries, convertedTo_withoutEntries, finish_withoutEntries]
  rfl

theorem lvalueReference_withoutEntries : T.withoutEntries.lvalueReference = T.lvalueReference := by
  funext a b
  simp only [lvalueReference, conditional_withoutEntries]

theorem simpleReference_withoutEntries : T.withoutEntries.simpleReference = T.simpleReference := by
  funext t u
  simp only [simpleReference, rvalueReference, mixedReference, lvalueReference_withoutEntries,
    convertible_withoutEntries]

theorem accepts_withoutEntries (parameters : List (Ty ι)) (arguments : Pack ι) :
    T.withoutEntries.accepts parameters arguments = T.accepts parameters arguments := by
  induction parameters generalizing arguments with
  | nil => rfl
  | cons p parameters ih => simp only [accepts, ih, convertible_withoutEntries]

theorem invokeResult_withoutEntries : T.withoutEntries.invokeResult = T.invokeResult := by
  funext callee arguments
  simp only [invokeResult, accepts_withoutEntries]
  rfl

theorem hasOperator_withoutEntries : T.withoutEntries.hasOperator = T.hasOperator := by
  funext operands t u
  simp only [hasOperator, anyBaseOf, sameOrDerived_withoutEntries]
  rfl

theorem hasEquality_withoutEntries : T.withoutEntries.hasEquality = T.hasEquality := by
  funext t u
  simp only [hasEquality, hasOperator_withoutEntries]
  rfl

theorem hasOrdering_withoutEntries : T.withoutEntries.hasOrdering = T.hasOrdering := by
  funext t u
  simp only [hasOrdering, hasOperator_withoutEntries]
  rfl

end Rules

/-- Of the entries in front of and behind a new one, the look-up for `o` finds the same one as before if the new entry is
not for `o` or comes too late. -/
theorem entry?_append_cons (T : Table ι) {α : Type} {before after : List (Object ι × α)} {key o : Object ι} {value : α}
    (h : T.sameObject key o = false ∨ ∃ k ∈ before.map (·.1), T.sameObject k o = true) :
    T.entry? (before ++ (key, value) :: after) o = T.entry? (before ++ after) o := by
  unfold entry?
  rw [List.find?_append, List.find?_append]
  rcases h with other | ⟨k, mem, same⟩
  · rw [List.find?_cons_of_neg (by simp [other])]
  · obtain ⟨e, he, rfl⟩ := List.mem_map.1 mem
    have found : (before.find? fun e => T.sameObject e.1 o).isSome = true := List.find?_isSome.2 ⟨e, he, same⟩
    obtain ⟨first, hfirst⟩ := Option.isSome_iff_exists.1 found
    rw [hfirst]
    rfl

/-- `T'` has the entries of `T` and one more: an entry of `a` for `key`, which comes after entries of `a` for `front`. -/
inductive Registers (T T' : Table ι) (a key : Object ι) (front : List (Object ι)) : Prop where
  | type (before after : List (Object ι × Ty ι)) (result : Ty ι) (keys : before.map (·.1) = front)
      (old : T.commonTypes a = before ++ after) (new : T'.commonTypes a = before ++ (key, result) :: after)
      (others : ∀ o, o ≠ a → T.commonTypes o = T'.commonTypes o)
      (references : ∀ o, T.commonReferences o = T'.commonReferences o) : Registers T T' a key front
  | reference (before after : List (Object ι × ReferenceRule ι)) (rule : ReferenceRule ι)
      (keys : before.map (·.1) = front) (old : T.commonReferences a = before ++ after)
      (new : T'.commonReferences a = before ++ (key, rule) :: after)
      (others : ∀ o, o ≠ a → T.commonReferences o = T'.commonReferences o)
      (types : ∀ o, T.commonTypes o = T'.commonTypes o) : Registers T T' a key front

section Agree

variable {T T' : Table ι} (agree : T.withoutEntries = T'.withoutEntries)

include agree

/-- What is the same without entries is the same in two tables that agree on everything else. -/
theorem eq_of_withoutEntries {α : Type} (f : Table ι → α) (h : ∀ T, f T.withoutEntries = f T) : f T = f T' := by
  rw [← h T, agree, h T']

theorem entry?_eq {α : Type} (entries : List (Object ι × α)) (o : Object ι) :
    T.entry? entries o = T'.entry? entries o :=
  eq_of_withoutEntries agree (fun S => S.entry? entries o) fun _ => rfl

theorem commonType_eq_of_lookup {t u : Ty ι}
    (h : T.entry? (T.commonTypes t.object) u.object = T'.entry? (T'.commonTypes t.object) u.object) :
    T.commonType t u = T'.commonType t u := by
  have hentry : T.commonTypeEntry t.decay u.decay = T'.commonTypeEntry t.decay u.decay := by
    rw [commonTypeEntry, commonTypeEntry, Ty.object_decay, Ty.object_decay, h]
  have hconditional := eq_of_withoutEntries agree conditional conditional_withoutEntries
  simp only [commonType, commonByValue, commonByConstLvalue, hentry, hconditional]

theorem commonReference_eq_of_lookup {t u : Ty ι}
    (htype : T.entry? (T.commonTypes t.object) u.object = T'.entry? (T'.commonTypes t.object) u.object)
    (hreference : T.entry? (T.commonReferences t.object) u.object =
      T'.entry? (T'.commonReferences t.object) u.object) :
    T.commonReference t u = T'.commonReference t u := by
  have hentry : T.commonReferenceEntry t u = T'.commonReferenceEntry t u := by
    rw [commonReferenceEntry, commonReferenceEntry, hreference]
  have hconditional := eq_of_withoutEntries agree conditional conditional_withoutEntries
  have hsimple := eq_of_withoutEntries agree simpleReference simpleReference_withoutEntries
  simp only [commonReference, hentry, hconditional, hsimple, commonType_eq_of_lookup agree htype]

/-- A new entry changes no answer for other operands, and none at all behind an entry that is found before it. -/
theorem Registers.resolution_eq {a key : Object ι} {front : List (Object ι)} (registers : Registers T T' a key front)
    {t u : Ty ι}
    (h : t.object ≠ a ∨ T.sameObject key u.object = false ∨ ∃ k ∈ front, T.sameObject k u.object = true) :
    T.commonType t u = T'.commonType t u ∧ T.commonReference t u = T'.commonReference t u := by
  have hlookup {α : Type} {entries entries' : Object ι → List (Object ι × α)} {before after : List (Object ι × α)}
      {value : α} (keys : before.map (·.1) = front) (old : entries a = before ++ after)
      (new : entries' a = before ++ (key, value) :: after) (others : ∀ o, o ≠ a → entries o = entries' o) :
      T.entry? (entries t.object) u.object = T'.entry? (entries' t.object) u.object := by
    rw [← entry?_eq agree]
    by_cases same : t.object = a
    · rw [same, old, new]
      refine (T.entry?_append_cons ?_).symm
      rw [keys]
      exact h.resolve_left fun other => other same
    · rw [others _ same]
  have hsame {α : Type} {entries entries' : Object ι → List (Object ι × α)} (all : ∀ o, entries o = entries' o) :
      T.entry? (entries t.object) u.object = T'.entry? (entries' t.object) u.object := by
    rw [all, entry?_eq agree]
  cases registers with
  | type _ _ _ keys old new others references =>
      have htype := hlookup keys old new others
      exact ⟨commonType_eq_of_lookup agree htype, commonReference_eq_of_lookup agree htype (hsame references)⟩
  | reference _ _ _ keys old new others types =>
      have htype := hsame types
      exact ⟨commonType_eq_of_lookup agree htype,
        commonReference_eq_of_lookup agree htype (hlookup keys old new others)⟩

end Agree

/-- Tables that agree on everything except entries give the same answers but for common types and common references.
These are the same where the first entries of the first operand's object for the object of the second are. So an entry
acts on its ordered pair only, and not at all behind an entry for the same object, whatever that one's value is. -/
theorem entries_scope (T T' : Table ι) (agree : T.withoutEntries = T'.withoutEntries) :
    ((T.isDerived = T'.isDerived ∧ T.sameOrDerived = T'.sameOrDerived ∧ T.isBaseOf = T'.isBaseOf) ∧
        (T.refCompatible = T'.refCompatible ∧ T.standardConvertible = T'.standardConvertible ∧
          T.valueConvertible = T'.valueConvertible ∧ T.convertible = T'.convertible) ∧
        T.conditional = T'.conditional ∧ T.simpleReference = T'.simpleReference ∧
        T.invokeResult = T'.invokeResult ∧ T.hasEquality = T'.hasEquality ∧ T.hasOrdering = T'.hasOrdering) ∧
      (∀ t u : Ty ι,
        T.entry? (T.commonTypes t.object) u.object = T'.entry? (T'.commonTypes t.object) u.object →
        T.entry? (T.commonReferences t.object) u.object = T'.entry? (T'.commonReferences t.object) u.object →
        T.commonType t u = T'.commonType t u ∧ T.commonReference t u = T'.commonReference t u) ∧
      ∀ (a key : Object ι) (front : List (Object ι)), Registers T T' a key front →
        (∀ t u : Ty ι, t.object ≠ a ∨ T.sameObject key u.object = false →
          T.commonType t u = T'.commonType t u ∧ T.commonReference t u = T'.commonReference t u) ∧
        (key ∈ front → ∀ t u : Ty ι,
          T.commonType t u = T'.commonType t u ∧ T.commonReference t u = T'.commonReference t u) := by
  refine ⟨⟨⟨?_, ?_, ?_⟩, ⟨?_, ?_, ?_, ?_⟩, ?_, ?_, ?_, ?_, ?_⟩, ?_, ?_⟩
  · exact eq_of_withoutEntries agree isDerived isDerived_withoutEntries
  · exact eq_of_withoutEntries agree sameOrDerived sameOrDerived_withoutEntries
  · exact eq_of_withoutEntries agree isBaseOf isBaseOf_withoutEntries
  · exact eq_of_withoutEntries agree refCompatible refCompatible_withoutEntries
  · exact eq_of_withoutEntries agree standardConvertible standardConvertible_withoutEntries
  · exact eq_of_withoutEntries agree valueConvertible valueConvertible_withoutEntries
  · exact eq_of_withoutEntries agree convertible convertible_withoutEntries
  · exact eq_of_withoutEntries agree conditional conditional_withoutEntries
  · exact eq_of_withoutEntries agree simpleReference simpleReference_withoutEntries
  · exact eq_of_withoutEntries agree invokeResult invokeResult_withoutEntries
  · exact eq_of_withoutEntries agree hasEquality hasEquality_withoutEntries
  · exact eq_of_withoutEntries agree hasOrdering hasOrdering_withoutEntries
  · intro t u htype hreference
    exact ⟨commonType_eq_of_lookup agree htype, commonReference_eq_of_lookup agree htype hreference⟩
  · intro a key front registers
    constructor
    · intro t u other
      exact registers.resolution_eq agree (other.imp_right Or.inl)
    · intro mem t u
      apply registers.resolution_eq agree
      -- The earlier entry has the key of the new one, so it is found wherever the new one could be.
      cases same : T.sameObject key u.object with
      | false => exact Or.inr (Or.inl rfl)
      | true => exact Or.inr (Or.inr ⟨key, mem, same⟩)

end Table

namespace Catalogue

/-- The items, but one of them has no second entry for an object behind an entry with an invalid type. -/
def trimmedRegistration (i : Item) : Registration Item :=
  match i with
  | .spec1 =>
    { bare .spec1 with
      commonTypes :=
        [common .z (value .w), common .z (value .x), common .spec1 (constLvalue .z),
          common .i32 (spelledOut .w), common .base .nonesuch, common .derived (value .y).addVolatile.rvalue,
          common .f64 (value .i8)] }
  | i => registration i

/-- The catalogue under numbers, without an entry that comes too late. -/
def trimmed : Table Item :=
  numbered trimmedRegistration (fun r => by cases r <;> constructor <;> rfl) builtin_bool

theorem trimmedRegistration_of_ne {i : Item} (differ : i ≠ .spec1) : trimmedRegistration i = registration i := by
  unfold trimmedRegistration
  split
  · contradiction
  · rfl

theorem trimmed_withoutEntries : trimmed.withoutEntries = separated.withoutEntries := by
  apply Table.withoutEntries_eq_of_registration
  · intro i
    by_cases same : i = .spec1
    · rw [same]
      rfl
    · simp only [trimmed, separated, numbered, trimmedRegistration_of_ne same]
  · rfl
  · rfl
  · rfl

theorem trimmed_registers :
    trimmed.Registers separated (object .spec1) (object .base)
      (objects [.z, .z, .spec1, .i32, .base, .derived]) := by
  apply Table.Registers.type
    [common .z (value .w), common .z (value .x), common .spec1 (constLvalue .z), common .i32 (spelledOut .w),
      common .base .nonesuch, common .derived (value .y).addVolatile.rvalue]
    [common .f64 (value .i8)] (value .x)
  · rfl
  · rfl
  · rfl
  · intro o differ
    cases o with
    | nonesuch => rfl
    | registered i =>
        have hi : i ≠ .spec1 := by
          rintro rfl
          exact differ rfl
        simp only [Table.commonTypes, Table.field, trimmed, separated, numbered, trimmedRegistration_of_ne hi]
  · intro o
    cases o with
    | nonesuch => rfl
    | registered i =>
        by_cases same : i = .spec1
        · rw [same]
          rfl
        · simp only [Table.commonReferences, Table.field, trimmed, separated, numbered,
            trimmedRegistration_of_ne same]

/-- An entry behind one for the same object whose type is invalid has no effect on its pair, and an entry has none on the
two objects in the other order. Where the first entries agree so do the answers. -/
theorem entries_scope_spec1 :
    let t := value .spec1
    let u := lvalue .base
    trimmed.withoutEntries = separated.withoutEntries ∧
      trimmed.Registers separated (object .spec1) (object .base)
        (objects [.z, .z, .spec1, .i32, .base, .derived]) ∧
      object .base ∈ objects [.z, .z, .spec1, .i32, .base, .derived] ∧ u.object ≠ object .spec1 ∧
      trimmed.commonType t u = .nonesuch ∧ separated.commonType t u = .nonesuch ∧
      trimmed.commonReference u t = separated.commonReference u t ∧
      trimmed.commonReference (lvalue .spec1) (value .z) = value .w ∧
      separated.commonReference (lvalue .spec1) (value .z) = value .w ∧
      trimmed.convertible = separated.convertible := by
  intro t u
  obtain ⟨⟨-, ⟨-, -, -, hconvertible⟩, -⟩, hfirst, hregisters⟩ :=
    Table.entries_scope trimmed separated trimmed_withoutEntries
  obtain ⟨hother, hlate⟩ := hregisters _ _ _ trimmed_registers
  have mem : object .base ∈ objects [.z, .z, .spec1, .i32, .base, .derived] := by decide
  have differ : u.object ≠ object .spec1 := by decide
  have hvalue : trimmed.commonType t u = .nonesuch := by decide
  have hanswer : trimmed.commonReference (lvalue .spec1) (value .z) = value .w := by decide
  refine ⟨trimmed_withoutEntries, trimmed_registers, mem, differ, hvalue, ?_, ?_, hanswer, ?_, hconvertible⟩
  · rw [← (hlate mem t u).1, hvalue]
  · exact (hother u t (Or.inl differ)).2
  · rw [← (hfirst (lvalue .spec1) (value .z) rfl rfl).2, hanswer]

end Catalogue

end Concord
