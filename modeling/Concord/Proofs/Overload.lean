import Concord.Call
import Concord.Catalogue.Numbered
import Concord.Proofs.ConversionScope
import Mathlib.Data.List.Forall2

/-!
# Overload resolution

A signature applies to arguments if it has as many parameters and each argument converts to the parameter at its position.
The acceptance test walks both lists at once, and a call takes the first signature that passes it. What stands before that
signature and behind it does not matter.
-/

namespace Concord

variable {ι : Type}

/-- The registration without its call signatures. -/
def Registration.withoutCalls (r : Registration ι) : Registration ι := { r with calls := [] }

theorem Registration.Builtin.withoutCalls {r : Registration ι} {k : Kind} (builtin : r.Builtin k) :
    r.withoutCalls.Builtin k :=
  { builtin with calls_eq := rfl }

namespace Table

/-- The table in which no object has a call signature. Two tables agree on everything except calls if without them they
are the same. -/
def withoutCalls (T : Table ι) : Table ι where
  registration i := (T.registration i).withoutCalls
  members := T.members
  mem_members := T.mem_members
  promoted := T.promoted
  promoted_builtin r := by
    obtain ⟨i, hi, builtin⟩ := T.promoted_builtin r
    exact ⟨i, hi, builtin.withoutCalls⟩
  truth := T.truth
  truth_builtin := by
    obtain ⟨i, hi, builtin⟩ := T.truth_builtin
    exact ⟨i, hi, builtin.withoutCalls⟩

/-- A conversion reads no call signature. -/
theorem convertsAlike_withoutCalls (T : Table ι) : T.withoutCalls.ConvertsAlike T :=
  ⟨rfl, rfl, rfl, rfl, rfl, rfl, rfl⟩

theorem convertible_eq_of_withoutCalls {T T' : Table ι} (agree : T.withoutCalls = T'.withoutCalls) :
    T.convertible = T'.convertible := by
  calc
    T.convertible = T.withoutCalls.convertible := (convertsAlike_withoutCalls T).convertible_eq.symm
    _ = T'.withoutCalls.convertible := by rw [agree]
    _ = T'.convertible := (convertsAlike_withoutCalls T').convertible_eq

variable (T : Table ι) (arguments : Pack ι)

/-- A signature applies to arguments: there are as many of them as parameters, and each converts to the parameter at its
position. -/
structure Applies (s : Signature ι) : Prop where
  length_eq : arguments.length = s.parameters.length
  converts : ∀ (i : Nat) (ha : i < arguments.length) (hp : i < s.parameters.length),
    T.convertible arguments[i] s.parameters[i] = true

/-- `s` is the first of a list of signatures that applies to the arguments. -/
def Selects (list : List (Signature ι)) (s : Signature ι) : Prop :=
  ∃ before after, list = before ++ s :: after ∧ (∀ x ∈ before, ¬ T.Applies arguments x) ∧ T.Applies arguments s

variable {T arguments} {callee : Ty ι} {list : List (Signature ι)} {s : Signature ι}

/-- The test takes a parameter and an argument at a time, and neither list may end before the other. -/
theorem accepts_iff_forall₂ {parameters : List (Ty ι)} :
    T.accepts parameters arguments = true ↔
      List.Forall₂ (fun a p => T.convertible a p = true) arguments parameters := by
  induction parameters generalizing arguments with
  | nil => cases arguments <;> simp
  | cons p parameters ih =>
    cases arguments with
    | nil => simp
    | cons a arguments => rw [accepts_cons_cons, Bool.and_eq_true, ih, List.forall₂_cons]

theorem accepts_iff_applies : T.accepts s.parameters arguments = true ↔ T.Applies arguments s := by
  rw [accepts_iff_forall₂, List.forall₂_iff_get]
  constructor
  · rintro ⟨length, converts⟩
    exact ⟨length, converts⟩
  · rintro ⟨length, converts⟩
    exact ⟨length, converts⟩

instance : Decidable (T.Applies arguments s) := decidable_of_iff _ accepts_iff_applies

theorem find?_accepts_eq_some_iff :
    list.find? (T.accepts ·.parameters arguments) = some s ↔ T.Selects arguments list s := by
  rw [List.find?_eq_some_iff_append, accepts_iff_applies]
  constructor
  · rintro ⟨applies, before, after, hlist, rejected⟩
    refine ⟨before, after, hlist, ?_, applies⟩
    intro x mem
    rw [← accepts_iff_applies, Bool.not_eq_true, ← Bool.not_eq_true']
    exact rejected x mem
  · rintro ⟨before, after, hlist, rejected, applies⟩
    refine ⟨applies, before, after, hlist, ?_⟩
    intro x mem
    rw [Bool.not_eq_true', ← Bool.not_eq_true, accepts_iff_applies]
    exact rejected x mem

theorem find?_accepts_eq_none_iff :
    list.find? (T.accepts ·.parameters arguments) = none ↔ ∀ x ∈ list, ¬ T.Applies arguments x := by
  simp only [List.find?_eq_none, accepts_iff_applies]

theorem invokeResult_of_selects (selects : T.Selects arguments (T.calls callee.object) s) :
    T.invokeResult callee arguments = s.result.canon := by
  rw [invokeResult, find?_accepts_eq_some_iff.2 selects]

theorem invokeResult_of_none (rejected : ∀ x ∈ T.calls callee.object, ¬ T.Applies arguments x) :
    T.invokeResult callee arguments = .nonesuch := by
  rw [invokeResult, find?_accepts_eq_none_iff.2 rejected]

/-- Tables with the same conversions select alike. -/
theorem Selects.of_convertible_eq {T' : Table ι} (convertible : T.convertible = T'.convertible)
    (selects : T.Selects arguments list s) : T'.Selects arguments list s := by
  have happlies (x : Signature ι) : T.Applies arguments x ↔ T'.Applies arguments x := by
    constructor
    · rintro ⟨length, converts⟩
      exact ⟨length, convertible ▸ converts⟩
    · rintro ⟨length, converts⟩
      exact ⟨length, convertible ▸ converts⟩
  simpa only [Selects, happlies] using selects

/-- A call has the result of the first signature of the callee's object that applies, and none if no signature does. If that
result is invalid, later signatures stay hidden. Two calls with the same first signature have one result, also in tables
whose objects register other signatures in front of it and behind it. -/
theorem invokeResult_first (T : Table ι) (callee : Ty ι) (arguments : Pack ι) :
    ((∃ s, T.Selects arguments (T.calls callee.object) s ∧ T.invokeResult callee arguments = s.result.canon) ∨
        ((∀ x ∈ T.calls callee.object, ¬ T.Applies arguments x) ∧ T.invokeResult callee arguments = .nonesuch)) ∧
      (∀ s, T.Selects arguments (T.calls callee.object) s → s.result.valid = false →
        T.invokeResult callee arguments = .nonesuch) ∧
      ∀ (T' : Table ι) (callee' : Ty ι) (s : Signature ι), T.withoutCalls = T'.withoutCalls →
        T.Selects arguments (T.calls callee.object) s → T.Selects arguments (T'.calls callee'.object) s →
        T'.invokeResult callee' arguments = T.invokeResult callee arguments := by
  refine ⟨?_, ?_, ?_⟩
  · cases hfind : (T.calls callee.object).find? (T.accepts ·.parameters arguments) with
    | some s =>
      have selects := find?_accepts_eq_some_iff.1 hfind
      exact Or.inl ⟨s, selects, invokeResult_of_selects selects⟩
    | none =>
      have rejected := find?_accepts_eq_none_iff.1 hfind
      exact Or.inr ⟨rejected, invokeResult_of_none rejected⟩
  · intro s selects invalid
    rw [invokeResult_of_selects selects]
    exact (Ty.canonical_canon s.result).eq_nonesuch (by rwa [Ty.valid_canon])
  · intro T' callee' s agree selects selects'
    have hselects' := selects'.of_convertible_eq (convertible_eq_of_withoutCalls agree)
    rw [invokeResult_of_selects selects, invokeResult_of_selects hselects']

end Table

namespace Catalogue

/-- The items, but one of them registers fewer call signatures. -/
def sparseRegistration (i : Item) : Registration Item :=
  match i with
  | .overload =>
    { bare .overload with calls := [⟨[value .i8, value .i8], value .bool⟩, ⟨[value .i8], spelledOut .i32⟩] }
  | i => registration i

/-- The catalogue under numbers, with fewer call signatures. -/
def sparse : Table Item :=
  numbered sparseRegistration (fun r => by cases r <;> constructor <;> rfl) builtin_bool

theorem separated_withoutCalls : separated.withoutCalls = sparse.withoutCalls := by
  have hregistration : (fun i => (separated.registration i).withoutCalls) =
      fun i => (sparse.registration i).withoutCalls := by
    funext i
    cases i <;> rfl
  simp only [Table.withoutCalls, hregistration]
  rfl

/-- A signature with an invalid result hides one that applies too. For a number another signature is the first one, as it is
where an arity and all later signatures are changed. -/
theorem invokeResult_first_overload :
    let callee := constLvalue .overload
    let derived := [value .child]
    let number := [value .i32]
    let refusing : Signature Item := ⟨[value .grand], .nonesuch⟩
    let computing : Signature Item := ⟨[value .i8], spelledOut .i32⟩
    (separated.Selects derived (separated.calls callee.object) refusing ∧ refusing.result.valid = false ∧
        separated.Applies derived ⟨[value .parent], value .i32⟩) ∧
      separated.invokeResult callee derived = .nonesuch ∧
      (separated.withoutCalls = sparse.withoutCalls ∧
        separated.Selects number (separated.calls callee.object) computing ∧
        separated.Selects number (sparse.calls (object .overload)) computing) ∧
      sparse.invokeResult (value .overload) number = separated.invokeResult callee number ∧
      separated.invokeResult callee number = value .i32 := by
  intro callee derived number refusing computing
  have hrefusing : separated.Selects derived (separated.calls callee.object) refusing :=
    Table.find?_accepts_eq_some_iff.1 rfl
  have hcomputing : separated.Selects number (separated.calls callee.object) computing :=
    Table.find?_accepts_eq_some_iff.1 rfl
  have hsparse : separated.Selects number (sparse.calls (object .overload)) computing :=
    Table.find?_accepts_eq_some_iff.1 rfl
  obtain ⟨-, hidden, -⟩ := Table.invokeResult_first separated callee derived
  obtain ⟨-, -, alike⟩ := Table.invokeResult_first separated callee number
  exact ⟨⟨hrefusing, rfl, by decide⟩, hidden refusing hrefusing rfl, ⟨separated_withoutCalls, hcomputing, hsparse⟩,
    alike sparse (value .overload) computing separated_withoutCalls hcomputing hsparse,
    Table.invokeResult_of_selects hcomputing⟩

end Catalogue

end Concord
