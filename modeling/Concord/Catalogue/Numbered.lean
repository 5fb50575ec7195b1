import Concord.Catalogue.Basic
import Concord.Table.Derivation

/-!
# The catalogue with numbered identities

The same registrations, but an item's routing stream spells its number in base sixteen and takes the place of its own
identity. No two items are then taken for the same object, the twins not either. Items whose bases come before them in
the numbering have no cycle among their bases.
-/

namespace Concord

namespace Catalogue

/-- The digits of a number in base sixteen, the lowest first. -/
def digits (n : Nat) : NibbleStream := ⟨fun k => Nibble.ofNat (n >>> (4 * k))⟩

theorem digits_injective {m n : Nat} (hm : m < 256) (hn : n < 256)
    (h : NibbleStream.agree Table.streamNibbles (digits m) (digits n) = true) : m = n := by
  have hdigit : ∀ k < Table.streamNibbles, (m >>> (4 * k)) % 16 = (n >>> (4 * k)) % 16 := by
    intro k hk
    exact congrArg Fin.val (NibbleStream.agree_iff.1 h k hk)
  have hlow : m % 16 = n % 16 := by simpa using hdigit 0 (by decide)
  have hhigh : m / 16 % 16 = n / 16 % 16 := by simpa [Nat.shiftRight_eq_div_pow] using hdigit 1 (by decide)
  omega

/-- The number of an object's routing stream; the sentinel's stream is that of zero. -/
def number : Object Item → Nat
  | .nonesuch => 0
  | .registered i => i.ctorIdx + 1

theorem number_lt (o : Object Item) : number o < 256 := by
  cases o with
  | nonesuch => decide
  | registered i =>
    obtain ⟨h, -⟩ := List.getElem?_eq_some_iff.1 (Item.getElem?_all i)
    have hlength : Item.all.length < 255 := by decide
    simp only [number]
    omega

theorem number_injective {a b : Object Item} (h : number a = number b) : a = b := by
  cases a with
  | nonesuch =>
    cases b with
    | nonesuch => rfl
    | registered j => simp [number] at h
  | registered i =>
    cases b with
    | nonesuch => simp [number] at h
    | registered j =>
      have hindex : i.ctorIdx = j.ctorIdx := Nat.succ.inj h
      have hitem := Item.getElem?_all i
      rw [hindex, Item.getElem?_all j] at hitem
      rw [Option.some.inj hitem]

/-- Registrations of the items as a table in which numbers tell the items apart. -/
def numbered (registration : Item → Registration Item)
    (builtin : ∀ r, (registration (promoted r)).Builtin (.ofRank r))
    (bool : (registration .bool).Builtin (.unsignedInteger .int)) : Table Item where
  registration i := { registration i with stream := digits (number (.registered i)), identity := .done }
  members := Item.all
  mem_members := Item.mem_all
  promoted r := .registered (promoted r)
  promoted_builtin r := ⟨promoted r, rfl, { builtin r with }⟩
  truth := .registered .bool
  truth_builtin := ⟨.bool, rfl, { bool with }⟩

section Numbered

variable {registration : Item → Registration Item}
  {builtin : ∀ r, (registration (promoted r)).Builtin (.ofRank r)}
  {bool : (registration .bool).Builtin (.unsignedInteger .int)}

theorem numbered_distinct : (numbered registration builtin bool).Distinct := by
  intro a b same
  have hstream : ∀ o, (numbered registration builtin bool).stream o = digits (number o) := by
    intro o
    cases o with
    | nonesuch =>
      simp only [Table.stream, Table.field, digits, number, NibbleStream.constant, Nat.zero_shiftRight]
      rfl
    | registered i => rfl
  rw [Table.sameObject_eq_and, Bool.and_eq_true, Table.sameStream, hstream, hstream] at same
  exact number_injective (digits_injective (number_lt a) (number_lt b) same.1)

theorem numbered_acyclic (h : ∀ i, ∀ b ∈ (registration i).bases, number b < number (.registered i)) :
    (numbered registration builtin bool).Acyclic := by
  apply Table.acyclic_of_lt number
  intro d b base
  cases d with
  | nonesuch => exact absurd base List.not_mem_nil
  | registered i => exact h i b base

end Numbered

/-- The catalogue's registrations under numbers. -/
def separated : Table Item := numbered registration builtin_promoted builtin_bool

theorem separated_distinct : separated.Distinct := numbered_distinct

theorem separated_acyclic : separated.Acyclic := by
  apply numbered_acyclic
  intro i
  cases i <;> decide

/-- The catalogue under numbers, without its entries for common types and common references. -/
def entryless : Table Item :=
  numbered (fun i => { registration i with commonTypes := [], commonReferences := [] })
    (fun r => { builtin_promoted r with commonTypes_eq := rfl, commonReferences_eq := rfl })
    { builtin_bool with commonTypes_eq := rfl, commonReferences_eq := rfl }

theorem entryless_distinct : entryless.Distinct := numbered_distinct

theorem entryless_acyclic : entryless.Acyclic := by
  apply numbered_acyclic
  intro i
  cases i <;> decide

/-- The catalogue under numbers, in which objects are related by their bases only. -/
def hierarchy : Table Item :=
  numbered
    (fun i =>
      { registration i with convertsTo := [], convertsFrom := [], commonTypes := [], commonReferences := [] })
    (fun r =>
      { builtin_promoted r with
        convertsTo_eq := rfl, convertsFrom_eq := rfl, commonTypes_eq := rfl, commonReferences_eq := rfl })
    { builtin_bool with
      convertsTo_eq := rfl, convertsFrom_eq := rfl, commonTypes_eq := rfl, commonReferences_eq := rfl }

theorem hierarchy_distinct : hierarchy.Distinct := numbered_distinct

theorem hierarchy_acyclic : hierarchy.Acyclic := by
  apply numbered_acyclic
  intro i
  cases i <;> decide

end Catalogue

end Concord
