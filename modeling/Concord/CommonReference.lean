import Concord.CommonType

/-!
# Common reference of two types

Four rules in turn, of which the first with a valid answer decides: the simple rule on two references, the registered
entry of the first object for the second, the conditional operator, and the common type.
-/

namespace Concord

namespace Table

variable {ι : Type} (T : Table ι)

/-- The conditional operator on lvalues of two referents, each with the qualifiers of both; kept only if it is a
reference. -/
def lvalueReference (a b : Ty ι) : Ty ι :=
  let c := T.conditional (a.copyCv b).addLvalueReference (b.copyCv a).addLvalueReference
  if c.isReference then c else .nonesuch

/-- The rvalue form of the lvalue answer, if rvalues of both referents convert to it. -/
def rvalueReference (a b : Ty ι) : Ty ι :=
  let r := (T.lvalueReference a b).rvalue
  if T.convertible a.rvalue r && T.convertible b.rvalue r then r else .nonesuch

/-- The answer for an lvalue of `a` and an rvalue of `b`: that for an lvalue of `a` and a `const` lvalue of `b`, if the
rvalue converts to it. -/
def mixedReference (a b : Ty ι) : Ty ι :=
  let l := T.lvalueReference a b.addConst
  if T.convertible b.rvalue l then l else .nonesuch

/-- The simple common reference of two reference types, or the sentinel. -/
def simpleReference (t u : Ty ι) : Ty ι :=
  let a := t.removeReference
  let b := u.removeReference
  match t.kind, u.kind with
  | .lvalue, .lvalue => T.lvalueReference a b
  | .rvalue, .rvalue => T.rvalueReference a b
  | .lvalue, .rvalue => T.mixedReference a b
  | .rvalue, .lvalue => T.mixedReference b a
  | _, _ => .nonesuch

/-- The registered common reference of the ordered pair, or the sentinel. -/
def commonReferenceEntry (t u : Ty ι) : Ty ι :=
  match T.entry? (T.commonReferences t.object) u.object with
  | some rule => (rule.apply t u).canon
  | none => .nonesuch

/-- The common reference of two types, or the sentinel. -/
def commonReference (t u : Ty ι) : Ty ι :=
  if t.valid && u.valid then
    (T.simpleReference t u).orElse fun _ =>
      (T.commonReferenceEntry t u).orElse fun _ =>
        (T.conditional t u).orElse fun _ => T.commonType t u
  else .nonesuch

theorem commonReference_of_invalid_left {t u : Ty ι} (h : t.valid = false) :
    T.commonReference t u = .nonesuch := by
  simp [commonReference, h]

theorem commonReference_of_invalid_right {t u : Ty ι} (h : u.valid = false) :
    T.commonReference t u = .nonesuch := by
  simp [commonReference, h]

end Table

end Concord
