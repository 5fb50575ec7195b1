import Concord.Catalogue.Numbered
import Concord.Detection
import Concord.Proofs.LeftFold

/-!
# Failure leaves the sentinel

A failure is a type, and the sentinel may come with any decoration spelled around it. A transform of an invalid operand
drops that decoration, and an operation that fails answers with the sentinel itself. Only the common reference of a single
type is the type as it is spelled, and an invalid one keeps its decoration there.
-/

namespace Concord

variable {ι : Type}

namespace Ty

/-- Each transform as a function of one operand, where `c` are the qualifiers that are added and `u` is the other operand.
A cross reference stands here as a function of its target. -/
def transforms (c : Cv) (u : Ty ι) : List (Ty ι → Ty ι) :=
  [removeCvref, decay, removeReference, (addCv · c), addConst, addVolatile, addLvalueReference, addRvalueReference,
    constLvalue, rvalue, (copyCv · u), copyCv u, crossReference u]

theorem copyCv_of_invalid_target (s : Ty ι) {t : Ty ι} (invalid : t.valid = false) : s.copyCv t = nonesuch := by
  unfold copyCv
  split
  · exact build_of_invalid invalid _ _
  · rfl

theorem eq_nonesuch_of_mem_transforms {c : Cv} {t u : Ty ι} {f : Ty ι → Ty ι} (mem : f ∈ transforms c u)
    (invalid : t.valid = false) : f t = nonesuch := by
  -- All transforms but `copyCv` build their result from the object, which has one canonical spelling if it is invalid.
  have hplain : plain t.object = nonesuch := (Canonical.plain t.object).eq_nonesuch invalid
  have hbuild : ∀ c k, build t.object c k = nonesuch := build_of_invalid invalid
  simp only [transforms, List.mem_cons, List.not_mem_nil, or_false] at mem
  rcases mem with rfl | rfl | rfl | rfl | rfl | rfl | rfl | rfl | rfl | rfl | rfl | rfl | rfl
  any_goals exact hbuild _ _
  · exact hplain
  · exact hplain
  · exact copyCv_of_invalid invalid u
  · exact copyCv_of_invalid_target u invalid

end Ty

namespace Table

variable {T : Table ι}

theorem isSame_nonesuch_iff {t : Ty ι} (invalid : t.valid = false) :
    T.isSame t .nonesuch = true ↔ t.cv = .unqualified ∧ t.kind = .none := by
  change (T.sameObject t.object .nonesuch && (t.cv == .unqualified && t.kind == .none)) = true ↔ _
  rw [Object.valid_eq_false_iff.1 invalid]
  simp

theorem canonical_commonTypeOf (p : Pack ι) : (T.commonTypeOf p).Canonical := by
  match p with
  | [] => exact Ty.canonical_nonesuch
  | [t] => exact canonical_commonType t t
  | t :: u :: p => exact T.leftFold_commonTypeOf.canonical_fold (by simp)

theorem canonical_commonReferenceOf {p : Pack ι} (several : p.length ≠ 1) : (T.commonReferenceOf p).Canonical := by
  match p with
  | [] => exact Ty.canonical_nonesuch
  | [t] => contradiction
  | t :: u :: p => exact T.leftFold_commonReferenceOf.canonical_fold (by simp)

/-- A signature may have any type for its result. -/
theorem canonical_invokeResult (callee : Ty ι) (arguments : Pack ι) : (T.invokeResult callee arguments).Canonical := by
  unfold invokeResult
  split
  · exact Ty.canonical_canon _
  · exact Ty.canonical_nonesuch

theorem canonical_unary {f : Ty ι → Ty ι} (hf : ∀ t, (f t).Canonical) (args : Pack ι) :
    (unary f args).Canonical := by
  unfold unary
  split
  · exact hf _
  · exact Ty.canonical_nonesuch

/-- An operation checks how many operands it has, and then answers with a rule or a transform. -/
theorem canonical_detected {op : Operation} {args : Pack ι} (several : op = .commonReference → args.length ≠ 1) :
    (T.detected op args).Canonical := by
  cases op with
  | commonType => exact canonical_commonTypeOf args
  | commonReference => exact canonical_commonReferenceOf (several rfl)
  | conditional =>
    simp only [detected]
    split
    · exact canonical_conditional _ _
    · exact Ty.canonical_nonesuch
  | invokeResult => exact canonical_invokeResult _ _
  | decay => exact canonical_unary (fun _ => .plain _) args
  | constLvalue => exact canonical_unary (fun _ => Ty.canonical_build _ _ _) args
  | rvalue => exact canonical_unary (fun _ => Ty.canonical_build _ _ _) args
  | removeCvref => exact canonical_unary (fun _ => .plain _) args
  | lvalueOf => exact Ty.canonical_build _ _ _
  | mutableLvalue =>
    simp only [detected]
    split
    · exact Ty.canonical_build _ _ _
    · exact Ty.canonical_nonesuch

theorem detected_eq_nonesuch {op : Operation} {args : Pack ι} (several : op = .commonReference → args.length ≠ 1)
    (failed : T.isDetected op args = false) : T.detected op args = .nonesuch :=
  (canonical_detected several).eq_nonesuch failed

/-- Whatever decoration an invalid operand has, a transform of it denotes the sentinel, and so does the answer of an
operation that fails. The common reference of a single type is that type, and an invalid one denotes the sentinel only
without decoration. -/
theorem failure_isSame_nonesuch (T : Table ι) :
    (∀ (c : Cv) (t u : Ty ι), t.valid = false → ∀ f ∈ Ty.transforms c u, T.isSame (f t) .nonesuch = true) ∧
      (∀ (op : Operation) (args : Pack ι), (op = .commonReference → args.length ≠ 1) →
        T.isDetected op args = false → T.isSame (T.detected op args) .nonesuch = true) ∧
      ∀ t : Ty ι, T.detected .commonReference [t] = t ∧
        (t.valid = false →
          (T.isSame (T.detected .commonReference [t]) .nonesuch = true ↔ t.cv = .unqualified ∧ t.kind = .none)) := by
  refine ⟨?_, ?_, ?_⟩
  · intro c t u invalid f mem
    rw [Ty.eq_nonesuch_of_mem_transforms mem invalid]
    exact T.isSame_self _
  · intro op args several failed
    rw [detected_eq_nonesuch several failed]
    exact T.isSame_self _
  · intro t
    exact ⟨rfl, isSame_nonesuch_iff⟩

end Table

namespace Catalogue

/-- A reference to the sentinel as an operand of two transforms, a call whose signature has no result, a transform of two
types, and two objects without a common reference. -/
theorem failure_isSame_nonesuch_reference :
    let t : Ty Item := .qualified .nonesuch .const .lvalue
    let u := constLvalue .base
    (t.valid = false ∧ table.isSame (t.copyCv u) .nonesuch = true ∧
        table.isSame (u.crossReference t) .nonesuch = true) ∧
      (separated.isDetected .invokeResult [value .overload, value .grand] = false ∧
        separated.isSame (separated.detected .invokeResult [value .overload, value .grand]) .nonesuch = true) ∧
      (separated.isDetected .commonReference [value .widget, value .gadget] = false ∧
        separated.isSame (separated.detected .commonReference [value .widget, value .gadget]) .nonesuch = true) ∧
      table.detected .commonReference [t] = t ∧
      ¬ table.isSame (table.detected .commonReference [t]) .nonesuch = true := by
  intro t u
  obtain ⟨htransform, -, hsingle⟩ := Table.failure_isSame_nonesuch table
  obtain ⟨-, hfailed, -⟩ := Table.failure_isSame_nonesuch separated
  have invalid : t.valid = false := rfl
  have hcall : separated.isDetected .invokeResult [value .overload, value .grand] = false := by decide
  have hpair : separated.isDetected .commonReference [value .widget, value .gadget] = false := by decide
  refine ⟨⟨invalid, ?_, ?_⟩, ⟨hcall, ?_⟩, ⟨hpair, ?_⟩, (hsingle t).1, ?_⟩
  · exact htransform .const t u invalid (Ty.copyCv · u) (by simp [Ty.transforms])
  · exact htransform .const t u invalid (Ty.crossReference u) (by simp [Ty.transforms])
  · exact hfailed .invokeResult _ (by simp) hcall
  · exact hfailed .commonReference _ (by simp) hpair
  · rw [(hsingle t).2 invalid]
    decide

/-- The sentinel as a source lends its decoration to a valid target, and a reference to the sentinel is its own common
reference, which fails but does not denote the sentinel. -/
theorem not_isSame_nonesuch_reference :
    let t : Ty Item := .qualified .nonesuch .const .lvalue
    ((Ty.nonesuch : Ty Item).valid = false ∧
        table.isSame (Ty.nonesuch.crossReference (constLvalue .base)) .nonesuch = false) ∧
      table.isDetected .commonReference [t] = false ∧
      table.isSame (table.detected .commonReference [t]) .nonesuch = false := by
  intro t
  have hdecorated : ∀ u : Ty Item, u.cv = .const → table.isSame u .nonesuch = false := by
    intro u hcv
    have differ : (u.cv == (Ty.nonesuch : Ty Item).cv) = false := by
      rw [hcv]
      rfl
    simp only [Table.isSame, differ, Bool.false_and, Bool.and_false]
  exact ⟨⟨rfl, hdecorated _ rfl⟩, rfl, hdecorated _ rfl⟩

end Catalogue

end Concord
