import Concord.Proofs.Reading.Types
import Concord.Source.Grammar.Expression.Operand

/-!
# Rules for patterns and expressions

The rules for patterns, blocks, operators, operands and expressions, by two readers of phrases that answer alike to fewer
than `n - 1` tokens. An operand takes a token of its own before it asks for a phrase; an expression starts with an operand.
-/

namespace Concord.Source.Grammar

open Concord.Source.Parser

set_option synthInstance.maxSize 1000

variable {n : Nat} {read read' : Reader} [∀ p, Alike (n - 1) (read p) (read' p)] (records : Bool) (steps : Nat)

/-! ## Patterns -/

instance : Alike n (rangeBound read) (rangeBound read') := by
  dsimp only [rangeBound]
  infer_instance

instance (start : Spelling) : Alike n (rangePattern read start) (rangePattern read' start) := by
  dsimp only [rangePattern]
  infer_instance

instance : Alike (n - 1) (alternatives read) (alternatives read') := by
  dsimp only [alternatives]
  infer_instance

instance : Alike (n - 1) (alternativesSpelled read) (alternativesSpelled read') := by
  dsimp only [alternativesSpelled]
  infer_instance

instance : Alike (n - 1) (fieldPattern read) (fieldPattern read') := by
  dsimp only [fieldPattern]
  infer_instance

instance : Alike (n - 1) (fieldPatternsWithin read steps) (fieldPatternsWithin read' steps) := by
  induction steps with
  | zero => exact .refl _
  | succ steps ih =>
    dsimp only [fieldPatternsWithin]
    infer_instance

instance : Alike n (fieldPatterns read) (fieldPatterns read') := by
  dsimp only [fieldPatterns]
  infer_instance

instance : Alike n (pathPattern read) (pathPattern read') := by
  dsimp only [pathPattern]
  infer_instance

instance : Alike n (literalPattern read) (literalPattern read') := by
  dsimp only [literalPattern]
  infer_instance

instance : Alike n (namePattern read) (namePattern read') := by
  dsimp only [namePattern]
  infer_instance

instance : Alike n (pointsPattern read) (pointsPattern read') := by
  dsimp only [pointsPattern]
  infer_instance

instance : Alike n (pattern read) (pattern read') := by
  dsimp only [pattern, slicePart]
  infer_instance

/-! ## Blocks -/

instance : Alike n (innerBlock read) (innerBlock read') := by
  dsimp only [innerBlock]
  infer_instance

instance : Alike n (ifWithin read steps) (ifWithin read' steps) := by
  induction steps with
  | zero => exact .refl _
  | succ steps ih =>
    dsimp only [ifWithin]
    infer_instance

instance : Alike n (whileLoop read) (whileLoop read') := by
  dsimp only [whileLoop]
  infer_instance

instance : Alike n (forLoop read) (forLoop read') := by
  dsimp only [forLoop]
  infer_instance

instance : Alike n (endlessLoop read) (endlessLoop read') := by
  dsimp only [endlessLoop]
  infer_instance

instance : Alike (n - 1) (arm read) (arm read') := by
  dsimp only [arm]
  infer_instance

instance : Alike n (matchExpression read) (matchExpression read') := by
  dsimp only [matchExpression]
  infer_instance

instance : Alike n (labelled read) (labelled read') := by
  dsimp only [labelled]
  infer_instance

instance (ts : Spelling) : AlikeOption n (blockExpression? read ts) (blockExpression? read' ts) := by
  dsimp only [blockExpression?, ifExpression]
  infer_instance

/-! ## Jumps -/

instance : Alike n (breakExpression read records) (breakExpression read' records) := by
  dsimp only [breakExpression]
  infer_instance

instance (word : String) : Alike n (valueJump read word) (valueJump read' word) := by
  dsimp only [valueJump]
  infer_instance

instance : Alike n (tailCall read) (tailCall read') := by
  dsimp only [tailCall]
  infer_instance

/-! ## Operators -/

instance : Consumes rangeMark := by
  dsimp only [rangeMark]
  infer_instance

instance : Alike n (cast read) (cast read') := by
  dsimp only [cast]
  infer_instance

section

variable [∀ records, Alike n (read (.operand records)) (read' (.operand records))]

/-- By induction on the steps, for the four readers at once. -/
theorem alike_operatorsWithin :
    (∀ floor left,
        Alike n (operatorsWithin read records steps floor left) (operatorsWithin read' records steps floor left)) ∧
      (∀ left, Alike n (rightOperandWithin read records steps left) (rightOperandWithin read' records steps left)) ∧
      (∀ left operand,
        Alike n (takenWithin read records steps left operand) (takenWithin read' records steps left operand)) ∧
      Alike n (rangeWithin read records steps) (rangeWithin read' records steps) := by
  induction steps with
  | zero => exact ⟨fun _ _ => .refl _, fun _ => .refl _, fun _ _ => .refl _, .refl _⟩
  | succ steps ih =>
    obtain ⟨operators, right, taken, range⟩ := ih
    refine ⟨fun floor left => ?_, fun left => ?_, fun left operand => ?_, ?_⟩
    · rw [operatorsWithin, operatorsWithin]
      refine .bind_of_forall inferInstance fun ts => ?_
      split
      · infer_instance
      · split
        · infer_instance
        · split <;> infer_instance
    · rw [rightOperandWithin, rightOperandWithin]
      infer_instance
    · rw [takenWithin, takenWithin]
      refine .bind_of_forall inferInstance fun ts => ?_
      split
      · infer_instance
      · infer_instance
    · rw [rangeWithin, rangeWithin]
      refine .bind_of_forall inferInstance fun mark => ?_
      infer_instance

instance (floor : Precedence) (left : Reading) :
    Alike n (operators read records floor left) (operators read' records floor left) := by
  have within (steps : Nat) :
      Alike n (operatorsWithin read records steps floor left) (operatorsWithin read' records steps floor left) :=
    (alike_operatorsWithin records steps).1 floor left
  dsimp only [operators]
  infer_instance

instance (floor : Precedence) : Alike n (operation read records floor) (operation read' records floor) := by
  dsimp only [operation]
  infer_instance

end

instance : Alike n (range read records) (range read' records) := by
  have within (steps : Nat) : Alike n (rangeWithin read records steps) (rangeWithin read' records steps) := by
    cases steps with
    | zero => exact .refl _
    | succ steps =>
      have right (left : Precedence) :
          Alike (n - 1) (rightOperandWithin read records steps left) (rightOperandWithin read' records steps left) :=
        (alike_operatorsWithin records steps).2.1 left
      rw [rangeWithin, rangeWithin]
      refine .bind_after_of_forall inferInstance fun mark => ?_
      infer_instance
  dsimp only [range]
  infer_instance

/-! ## Operands -/

instance : Consumes referenceMark := by
  dsimp only [referenceMark]
  infer_instance

instance : Alike n (callValues read) (callValues read') := by
  dsimp only [callValues]
  infer_instance

instance : Alike (n - 1) (fieldValue read) (fieldValue read') := by
  dsimp only [fieldValue]
  infer_instance

instance : Alike (n - 1) (fieldValuesWithin read steps) (fieldValuesWithin read' steps) := by
  induction steps with
  | zero => exact .refl _
  | succ steps ih =>
    dsimp only [fieldValuesWithin]
    infer_instance

instance : Alike n (pathExpression read records) (pathExpression read' records) := by
  dsimp only [pathExpression]
  infer_instance

instance : Alike (n - 1) (arrayContent read) (arrayContent read') := by
  dsimp only [arrayContent]
  infer_instance

instance : Alike (n - 1) (closureParameter read) (closureParameter read') := by
  dsimp only [closureParameter]
  infer_instance

instance : Alike n (closure read records) (closure read' records) := by
  dsimp only [closure]
  infer_instance

instance : Alike n (binding read records) (binding read' records) := by
  dsimp only [binding]
  infer_instance

instance : Alike n (atom read records) (atom read' records) := by
  dsimp only [atom]
  refine .bind_of_forall inferInstance fun ts => ?_
  have block : Option.Rel (Alike n) (blockExpression? read ts) (blockExpression? read' ts) := AlikeOption.rel
  generalize blockExpression? read ts = o, blockExpression? read' ts = o' at block
  cases block <;> dsimp only <;> infer_instance

instance : Alike (n - 1) (afterPoint read) (afterPoint read') := by
  dsimp only [afterPoint]
  infer_instance

instance : Alike n (fieldOrMethod read) (fieldOrMethod read') := by
  dsimp only [fieldOrMethod]
  refine .bind_after_of_forall inferInstance fun point => ?_
  refine .bind_of_forall inferInstance fun names => ?_
  split <;> infer_instance

instance : Alike n (completion read) (completion read') := by
  dsimp only [completion]
  infer_instance

instance : Alike n (completions read) (completions read') := by
  dsimp only [completions]
  infer_instance

instance : Alike n (operand read records) (operand read' records) := by
  dsimp only [operand]
  infer_instance

/-! ## Expressions -/

variable [∀ records, Alike n (read (.operand records)) (read' (.operand records))]

instance : Alike n (expression read records) (expression read' records) := by
  dsimp only [expression]
  infer_instance

instance : Alike n (standing read) (standing read') := by
  dsimp only [standing]
  refine .bind_of_forall inferInstance fun front => ?_
  refine .bind_of_forall inferInstance fun ts => ?_
  have block : Option.Rel (Alike n) (blockExpression? read ts) (blockExpression? read' ts) := AlikeOption.rel
  generalize blockExpression? read ts = o, blockExpression? read' ts = o' at block
  cases block <;> dsimp only <;> infer_instance

end Concord.Source.Grammar
