/-!
# Clauses

A requirement is a list of clauses, checked from left to right. A clause holds, fails, or has no meaning at all; what
comes after the first clause that fails is never looked at, so it may be meaningless.
-/

namespace Concord

/-- A clause of a requirement. -/
inductive Clause where
  /-- A condition that has been decided. -/
  | fact (holds : Bool)
  /-- Something that is no condition. -/
  | meaningless
  /-- A list of clauses that all have to hold. -/
  | all (clauses : List Clause)

namespace Clause

mutual

/-- Whether a clause holds; none if the answer hangs on a meaningless clause. -/
def eval : Clause → Option Bool
  | fact holds => some holds
  | meaningless => none
  | all clauses => evalAll clauses

/-- Whether all clauses of a list hold. The first one that does not hold decides. -/
def evalAll : List Clause → Option Bool
  | [] => some true
  | c :: rest =>
    match eval c with
    | some true => evalAll rest
    | some false => some false
    | none => none

end

@[simp] theorem eval_fact (b : Bool) : eval (fact b) = some b := rfl

@[simp] theorem eval_meaningless : eval meaningless = none := rfl

@[simp] theorem eval_all (clauses : List Clause) : eval (all clauses) = evalAll clauses := rfl

@[simp] theorem evalAll_nil : evalAll [] = some true := rfl

theorem evalAll_cons_of_true {c : Clause} (h : c.eval = some true) (rest : List Clause) :
    evalAll (c :: rest) = evalAll rest := by
  rw [evalAll, h]

theorem evalAll_cons_of_ne_true {c : Clause} (h : c.eval ≠ some true) (rest : List Clause) :
    evalAll (c :: rest) = c.eval := by
  rw [evalAll]
  split <;> simp_all

end Clause

end Concord
