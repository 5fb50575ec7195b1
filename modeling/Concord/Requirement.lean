import Concord.Clause
import Concord.Concept.Callable

/-!
# Requirements

A requirement turns a pack into a list of clauses. It is met if the list holds, and can itself stand as a clause of
another list.
-/

namespace Concord

/-- The requirements that can be asked about by name. -/
inductive Requirement where
  /-- The first type can be assigned from the second. -/
  | assignment
  /-- Two types have a common reference, the same in both orders, to which both convert. -/
  | sharesReference
  /-- A `const` lvalue of the first type and the second type have a conditional that is an lvalue. -/
  | conditionalLvalue
  /-- The first type is a base of the second. -/
  | baseOf
  /-- There is a second type, and it converts to the first. -/
  | takesFrom
  /-- The first type is a class, and then something that is no condition. -/
  | classToUnmodeled
  deriving DecidableEq, Repr

namespace Table

variable {ι : Type} (T : Table ι)

/-- The clauses of a requirement on a pack. -/
def clauses : Requirement → Pack ι → List Clause
  | .assignment, args =>
    let a := T.assignment args.first args.second
    [.fact a.valid, .fact (T.same a args.first)]
  | .sharesReference, args =>
    let r := T.commonReferenceOf args
    [.fact r.valid, .fact (T.same r (T.commonReferenceOf [args.second, args.first])),
      .fact (T.convertibleTo args.first r), .fact (T.convertibleTo args.second r)]
  | .conditionalLvalue, args =>
    let c := T.conditional args.first.constLvalue args.second
    [.fact c.valid, .fact c.isLvalue]
  | .baseOf, args => [.fact (T.isBaseOf args.first args.second)]
  | .takesFrom, args => [.fact args.second.valid, .fact (T.convertibleTo args.second args.first)]
  | .classToUnmodeled, args => [.fact (T.isClass args.first.object), .meaningless]

/-- A requirement on a pack as a clause. -/
def satisfies (r : Requirement) (args : Pack ι) : Clause := .all (T.clauses r args)

/-- Whether a requirement is met; none if the answer hangs on a meaningless clause. -/
def requires (r : Requirement) (args : Pack ι) : Option Bool := (T.satisfies r args).eval

/-- The assignability concept uses the requirement on assignments. -/
theorem requires_assignment (t u : Ty ι) : T.requires .assignment [t, u] = some (T.assigns t u) := by
  simp only [requires, satisfies, clauses, assigns, Pack.first_cons, Pack.second_cons_cons, Clause.eval_all]
  cases h : (T.assignment t u).valid <;> cases h' : T.same (T.assignment t u) t <;> rfl

end Table

end Concord
