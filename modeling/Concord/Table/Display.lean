import Concord.Table.Basic

/-!
# Display of types

For people a type is shown with its object's own name, not its path. A failed assertion that two types are the same shows
both.
-/

namespace Concord

/-- Two types that were asserted to be the same and are not. -/
structure TypeMismatch (ι : Type) where
  found : Ty ι
  expected : Ty ι

namespace Table

variable {ι : Type} (T : Table ι)

/-- A type as it is shown. -/
def display (t : Ty ι) : String := t.cv.lead ++ T.title t.object ++ t.kind.mark

/-- The report of a failed assertion. -/
def mismatchMessage (e : TypeMismatch ι) : String :=
  "type mismatch: `" ++ T.display e.found ++ "` is not `" ++ T.display e.expected ++ "`"

/-- Succeeds if two types are the same, however they are spelled. -/
def assertSame (t u : Ty ι) : Except (TypeMismatch ι) Unit :=
  if T.isSame t u then .ok () else .error ⟨t, u⟩

theorem assertSame_eq_ok_iff (t u : Ty ι) : T.assertSame t u = .ok () ↔ T.isSame t u = true := by
  unfold assertSame
  split <;> simp_all

end Table

end Concord
