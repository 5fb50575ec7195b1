import Concord.Table.Basic

/-!
# Derivation

An object leads to its bases, their bases, and so on. `search?` walks the bases lists to a bounded depth and says whether
it got to the end of all of them; `reaches` is the search with a depth that no table without cycles exceeds. `Derives`
is the relation that the search decides.
-/

namespace Concord

namespace Table

variable {ι : Type} (T : Table ι)

/-- `d` leads to `b` by zero or more steps to a direct base. -/
inductive Derives : Object ι → Object ι → Prop where
  | refl (o : Object ι) : Derives o o
  | step {d b o : Object ι} (base : b ∈ T.bases d) (rest : Derives b o) : Derives d o

/-- No object is among the bases of its own bases. -/
def Acyclic : Prop := ∀ d b, b ∈ T.bases d → ¬ T.Derives b d

/-- Some element of a list is `o` or leads to it, as far as `depth` levels of lists show; none if there are more levels. -/
def search? : Nat → List (Object ι) → Object ι → Option Bool
  | 0, list, _ => if list.isEmpty then some false else none
  | depth + 1, list, o =>
    (list.mapM fun h => (search? depth (T.bases h) o).map (T.sameObject h o || ·)).map (·.any id)

/-- A number of levels that a table without cycles does not exceed: each level has another object. -/
def depth : Nat := T.members.length + 1

/-- Some element of a list is `o` or derives from it. -/
def reaches (list : List (Object ι)) (o : Object ι) : Bool := (T.search? T.depth list o).getD false

/-- `d` strictly derives from `b`. -/
def isDerived (d b : Object ι) : Bool := T.reaches (T.bases d) b

/-- `d` is `b` or derives from it. -/
def sameOrDerived (d b : Object ι) : Bool := T.sameObject d b || T.isDerived d b

/-- Both types are classes and no references, and the class of `d` is that of `b` or derives from it. -/
def isBaseOf (b d : Ty ι) : Bool :=
  T.isClass b.object && T.isClass d.object && (b.isPrvalue && d.isPrvalue) &&
    T.sameOrDerived d.object b.object

/-- Some element of a list is `o`. -/
def contains (list : List (Object ι)) (o : Object ι) : Bool := list.any (T.sameObject · o)

/-- Some element of a list is `o` or a base of it. -/
def anyBaseOf (list : List (Object ι)) (o : Object ι) : Bool := list.any (T.sameOrDerived o ·)

/-- Some element of a list is arithmetic. -/
def anyArithmetic (list : List (Object ι)) : Bool := list.any T.isArithmetic

variable {T}

theorem Derives.trans {a b c : Object ι} (hab : T.Derives a b) (hbc : T.Derives b c) : T.Derives a c := by
  induction hab with
  | refl => exact hbc
  | step base _ ih => exact .step base (ih hbc)

theorem Derives.of_mem_bases {d b : Object ι} (h : b ∈ T.bases d) : T.Derives d b :=
  .step h (.refl b)

/-- A table has no cycles if each base comes before what it is a base of. -/
theorem acyclic_of_lt (rank : Object ι → Nat) (h : ∀ d, ∀ b ∈ T.bases d, rank b < rank d) : T.Acyclic := by
  have hle : ∀ {a b : Object ι}, T.Derives a b → rank b ≤ rank a := by
    intro a b derives
    induction derives with
    | refl => exact Nat.le_refl _
    | step base _ ih => exact Nat.le_trans ih (Nat.le_of_lt (h _ _ base))
  intro d b base derives
  exact absurd (h d b base) (Nat.not_lt.2 (hle derives))

@[simp] theorem sameOrDerived_self (a : Object ι) : T.sameOrDerived a a = true := by
  simp [sameOrDerived]

@[simp] theorem search?_nil (depth : Nat) (o : Object ι) : T.search? depth [] o = some false := by
  cases depth <;> rfl

@[simp] theorem reaches_nil (o : Object ι) : T.reaches [] o = false := by
  simp [reaches]

end Table

end Concord
