import Concord.Conditional

/-!
# Common type of two types

Both operands decay first. A registered entry of the first object for the second answers before all else; then come the
conditional operator on values and the one on `const` lvalues.
-/

namespace Concord

namespace Table

variable {ι : Type} (T : Table ι)

/-- The registered common type of the ordered pair, or the sentinel. An entry counts even if its type is invalid. -/
def commonTypeEntry (t u : Ty ι) : Ty ι :=
  match T.entry? (T.commonTypes t.object) u.object with
  | some result => result.canon
  | none => .nonesuch

/-- The decayed conditional operator on two values. -/
def commonByValue (t u : Ty ι) : Ty ι :=
  (T.conditional t.addRvalueReference u.addRvalueReference).decay

/-- The decayed conditional operator on two `const` lvalues. -/
def commonByConstLvalue (t u : Ty ι) : Ty ι := (T.conditional t.constLvalue u.constLvalue).decay

/-- The common type of two types, or the sentinel. -/
def commonType (t u : Ty ι) : Ty ι :=
  let a := t.decay
  let b := u.decay
  if a.valid && b.valid then
    (T.commonTypeEntry a b).orElse fun _ =>
      (T.commonByValue a b).orElse fun _ => T.commonByConstLvalue a b
  else .nonesuch

/-- Only the objects of the operands matter. -/
theorem commonType_decay (t u : Ty ι) : T.commonType t.decay u.decay = T.commonType t u := rfl

theorem commonType_of_invalid_left {t u : Ty ι} (h : t.valid = false) : T.commonType t u = .nonesuch := by
  have hdecay : t.decay.valid = false := h
  simp [commonType, hdecay]

theorem commonType_of_invalid_right {t u : Ty ι} (h : u.valid = false) : T.commonType t u = .nonesuch := by
  have hdecay : u.decay.valid = false := h
  simp [commonType, hdecay]

end Table

end Concord
