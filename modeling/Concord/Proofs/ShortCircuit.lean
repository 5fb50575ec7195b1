import Concord.Catalogue.Numbered
import Concord.Requirement

/-!
# Clauses behind a failure

A list of clauses has the outcome of its first clause that does not hold, and holds if there is none. So what is written
behind that clause is of no account, also where the list is a clause of another list, and so on upward. `Agrees` relates
clauses that differ in such places only.
-/

namespace Concord

namespace Clause

/-- The first clause of a list that does not hold comes to `outcome`. -/
def StopsWith (clauses : List Clause) (outcome : Option Bool) : Prop :=
  ∃ before c after, clauses = before ++ c :: after ∧ (∀ b ∈ before, b.eval = some true) ∧ c.eval = outcome

mutual

/-- Two clauses differ at most in what a list, at any level, has behind a clause that does not hold. -/
inductive Agrees : Clause → Clause → Prop where
  | refl (c : Clause) : Agrees c c
  | all {clauses clauses' : List Clause} (lists : AgreesAll clauses clauses') : Agrees (all clauses) (all clauses')

/-- Two lists of clauses agree clause by clause up to the end or up to a clause that does not hold. -/
inductive AgreesAll : List Clause → List Clause → Prop where
  | nil : AgreesAll [] []
  | cons {c c' : Clause} {rest rest' : List Clause} (head : Agrees c c') (tail : AgreesAll rest rest') :
      AgreesAll (c :: rest) (c' :: rest')
  | cut {c c' : Clause} (head : Agrees c c') (stops : c.eval ≠ some true) (rest rest' : List Clause) :
      AgreesAll (c :: rest) (c' :: rest')

end

variable {c : Clause} {before clauses clauses' : List Clause} {outcome : Option Bool}

/-- Clauses that hold are passed over. -/
theorem evalAll_append_of_true (holds : ∀ b ∈ before, b.eval = some true) (rest : List Clause) :
    evalAll (before ++ rest) = evalAll rest := by
  induction before with
  | nil => rfl
  | cons b before ih =>
    rw [List.cons_append, evalAll_cons_of_true (holds b List.mem_cons_self)]
    exact ih fun x mem => holds x (List.mem_cons_of_mem b mem)

theorem evalAll_of_forall (holds : ∀ b ∈ clauses, b.eval = some true) : evalAll clauses = some true := by
  have h := evalAll_append_of_true holds []
  rwa [List.append_nil, evalAll_nil] at h

theorem evalAll_of_stopsWith (stops : StopsWith clauses outcome) (failure : outcome ≠ some true) :
    evalAll clauses = outcome := by
  obtain ⟨before, c, after, rfl, holds, rfl⟩ := stops
  rw [evalAll_append_of_true holds, evalAll_cons_of_ne_true failure]

/-- A list without a clause at which it stops holds from end to end. -/
theorem forall_or_stopsWith (clauses : List Clause) :
    (∀ c ∈ clauses, c.eval = some true) ∨ ∃ outcome, outcome ≠ some true ∧ StopsWith clauses outcome := by
  induction clauses with
  | nil => exact Or.inl (by simp)
  | cons c rest ih =>
    by_cases h : c.eval = some true
    · rcases ih with holds | ⟨outcome, failure, before, d, after, hrest, holds, hd⟩
      · exact Or.inl (List.forall_mem_cons.2 ⟨h, holds⟩)
      · refine Or.inr ⟨outcome, failure, c :: before, d, after, ?_, List.forall_mem_cons.2 ⟨h, holds⟩, hd⟩
        rw [hrest, List.cons_append]
    · exact Or.inr ⟨c.eval, h, [], c, rest, rfl, by simp, rfl⟩

theorem evalAll_eq_true_iff : evalAll clauses = some true ↔ ∀ c ∈ clauses, c.eval = some true := by
  constructor
  · intro h
    rcases forall_or_stopsWith clauses with holds | ⟨outcome, failure, stops⟩
    · exact holds
    · rw [evalAll_of_stopsWith stops failure] at h
      exact absurd h failure
  · exact evalAll_of_forall

theorem evalAll_eq_iff_stopsWith (failure : outcome ≠ some true) :
    evalAll clauses = outcome ↔ StopsWith clauses outcome := by
  constructor
  · rintro rfl
    rcases forall_or_stopsWith clauses with holds | ⟨outcome, failure', stops⟩
    · exact absurd (evalAll_of_forall holds) failure
    · rwa [evalAll_of_stopsWith stops failure']
  · intro stops
    exact evalAll_of_stopsWith stops failure

mutual

theorem Agrees.eval_eq {c c' : Clause} : Agrees c c' → c.eval = c'.eval
  | .refl _ => rfl
  | .all lists => lists.evalAll_eq

theorem AgreesAll.evalAll_eq {clauses clauses' : List Clause} :
    AgreesAll clauses clauses' → evalAll clauses = evalAll clauses'
  | .nil => rfl
  | .cons head tail => by rw [evalAll, evalAll, head.eval_eq, tail.evalAll_eq]
  | .cut head stops _ _ => by
    rw [evalAll_cons_of_ne_true stops, evalAll_cons_of_ne_true (head.eval_eq ▸ stops), head.eval_eq]

end

/-- A list fails if its first clause that does not hold fails, is meaningless if that clause is, and holds if there is no
such clause; a condition has the outcome that is decided, and what is no condition has none. So the outcome of a clause is
settled at any depth. Lists that differ behind clauses that do not hold, in themselves or in a list anywhere within them,
make requirements with one outcome. -/
theorem eval_all_shortCircuits (clauses : List Clause) :
    ((all clauses).eval = some false ↔ StopsWith clauses (some false)) ∧
      ((all clauses).eval = some true ↔ ∀ c ∈ clauses, c.eval = some true) ∧
      ((all clauses).eval = none ↔ StopsWith clauses none) ∧
      (∀ clauses', AgreesAll clauses clauses' → (all clauses).eval = (all clauses').eval) ∧
      (∀ holds, (fact holds).eval = some holds) ∧ meaningless.eval = none := by
  refine ⟨?_, ?_, ?_, ?_, eval_fact, eval_meaningless⟩
  · rw [eval_all]
    exact evalAll_eq_iff_stopsWith (by decide)
  · rw [eval_all]
    exact evalAll_eq_true_iff
  · rw [eval_all]
    exact evalAll_eq_iff_stopsWith (by decide)
  · intro clauses' agrees
    rw [eval_all, eval_all, agrees.evalAll_eq]

end Clause

namespace Catalogue

open Clause

/-- A requirement between other clauses of a requirement: one that holds, one that comes to something meaningless, and one
that fails before it does. What is meaningless in the last one and behind it can be left out. -/
theorem eval_all_shortCircuits_nested :
    let base := separated.satisfies .baseOf [value .grand, value .child]
    let undecided := separated.satisfies .classToUnmodeled [value .grand]
    let failing := separated.satisfies .classToUnmodeled [value .i32]
    let clauses := [base, failing, .meaningless]
    let clauses' := [base, .all [.fact false]]
    (Clause.all [.fact true, .all [base, .all []], base]).eval = some true ∧
      (Clause.all [base, undecided, .fact false]).eval = none ∧
      AgreesAll clauses clauses' ∧ (Clause.all clauses).eval = some false ∧ (Clause.all clauses').eval = some false := by
  intro base undecided failing clauses clauses'
  have holding : (Clause.all [.fact true, .all [base, .all []], base]).eval = some true := by
    obtain ⟨-, holds, -⟩ := Clause.eval_all_shortCircuits [.fact true, .all [base, .all []], base]
    apply holds.2
    decide
  have meaningless : (Clause.all [base, undecided, .fact false]).eval = none := by
    obtain ⟨-, -, undefined, -⟩ := Clause.eval_all_shortCircuits [base, undecided, .fact false]
    apply undefined.2
    refine ⟨[base], undecided, [.fact false], rfl, ?_, by decide⟩
    decide
  have stops : failing.eval ≠ some true := by decide
  have nested : Agrees failing (.all [.fact false]) :=
    .all (.cut (.refl (.fact false)) (by decide) [.meaningless] [])
  have agrees : AgreesAll clauses clauses' := .cons (.refl base) (.cut nested stops [.meaningless] [])
  obtain ⟨fails, -, -, replace, -⟩ := Clause.eval_all_shortCircuits clauses
  have outcome : (Clause.all clauses).eval = some false := by
    apply fails.2
    refine ⟨[base], failing, [.meaningless], rfl, ?_, by decide⟩
    decide
  exact ⟨holding, meaningless, agrees, outcome, replace clauses' agrees ▸ outcome⟩

end Catalogue

end Concord
