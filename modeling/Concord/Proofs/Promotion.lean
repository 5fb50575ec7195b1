import Concord.Catalogue.Numbered
import Concord.Pack
import Concord.Proofs.Agreement

/-!
# Packs of numbers

Two numbers of one object have that object in common, unpromoted; two others have the built-in object of the higher rank.
Mixing both rules, a left fold still does not depend on the order of its pack: the answer so far has the highest rank that
was met, and it is the built-in object of that rank as soon as two objects were met.
-/

namespace Concord

namespace Table

variable {ι : Type}

/-- A pack of numbers of which none has an entry for common types. -/
structure Numbers (T : Table ι) (p : Pack ι) : Prop where
  isArithmetic : ∀ t ∈ p, T.isArithmetic t.object = true
  unregistered : ∀ t ∈ p, T.commonTypes t.object = []

/-- What two numbers have in common: their object if it is one, otherwise the built-in object of the higher rank. -/
def joinNumbers (T : Table ι) (a b : Object ι) : Object ι :=
  if T.sameObject a b then a else T.usualArithmetic a b

/-- `o` has the highest rank of a list of numbers, and it is their one object or the built-in object of that rank. -/
structure Promotes (T : Table ι) (os : List (Object ι)) (o : Object ι) : Prop where
  highest : ∃ a ∈ os, T.rank a = T.rank o
  bound : ∀ a ∈ os, (T.rank a).index ≤ (T.rank o).index
  value : (∀ a ∈ os, a = o) ∨ ((∃ a ∈ os, ∃ b ∈ os, a ≠ b) ∧ o = T.promote o)

variable {T : Table ι} {p q : Pack ι} {t u : Ty ι} {os : List (Object ι)} {a b o o' : Object ι}

theorem Numbers.subset (numbers : T.Numbers p) (h : q.map Ty.object ⊆ p.map Ty.object) : T.Numbers q := by
  have hobject : ∀ u ∈ q, ∃ t ∈ p, t.object = u.object := by
    intro u mem
    exact List.mem_map.1 (h (List.mem_map_of_mem mem))
  constructor
  · intro u mem
    obtain ⟨t, ht, hobject⟩ := hobject u mem
    exact hobject ▸ numbers.isArithmetic t ht
  · intro u mem
    obtain ⟨t, ht, hobject⟩ := hobject u mem
    exact hobject ▸ numbers.unregistered t ht

theorem commonTypes_promoted (r : Rank) : T.commonTypes (T.promoted r) = [] := by
  obtain ⟨i, hi, builtin⟩ := T.promoted_builtin r
  rw [hi]
  exact builtin.commonTypes_eq

@[simp] theorem joinNumbers_self (a : Object ι) : T.joinNumbers a a = a := by
  simp [joinNumbers]

theorem joinNumbers_of_ne (distinct : T.Distinct) (differ : a ≠ b) : T.joinNumbers a b = T.usualArithmetic a b := by
  simp [joinNumbers, distinct.sameObject_eq_false differ]

theorem rank_joinNumbers_of_ne (distinct : T.Distinct) (differ : a ≠ b) :
    T.rank (T.joinNumbers a b) = (T.rank a).max (T.rank b) := by
  rw [joinNumbers_of_ne distinct differ]
  exact T.rank_promoted _

theorem promote_joinNumbers_of_ne (distinct : T.Distinct) (differ : a ≠ b) :
    T.promote (T.joinNumbers a b) = T.joinNumbers a b := by
  rw [promote, rank_joinNumbers_of_ne distinct differ, joinNumbers_of_ne distinct differ, usualArithmetic]

/-- Two numbers have a common type, whatever decorates them. -/
theorem commonType_eq_joinNumbers (distinct : T.Distinct) (ht : T.isArithmetic t.object = true)
    (hu : T.isArithmetic u.object = true) (unregistered : T.commonTypes t.object = []) :
    T.commonType t u = .plain (T.joinNumbers t.object u.object) := by
  have hvt : t.valid = true := T.valid_of_isArithmetic ht
  have hvu : u.valid = true := T.valid_of_isArithmetic hu
  have hvalue : T.commonByValue t.decay u.decay = .plain (T.joinNumbers t.object u.object) := by
    rw [commonByValue_decay]
    by_cases same : t.object = u.object
    · rw [same, joinNumbers_self, Ty.decay, conditional_self (by rwa [valid_bare]), object_bare]
    · rw [conditional_of_isArithmetic distinct (by simpa using same) (by simpa using ht) (by simpa using hu),
        object_bare, object_bare, joinNumbers_of_ne distinct same]
      rfl
  rw [commonType_eq_commonByValue (valid_commonTypeEntry_of_nil unregistered) hvt hvu, hvalue]

theorem Promotes.single (a : Object ι) : T.Promotes [a] a where
  highest := ⟨a, List.mem_singleton_self a, rfl⟩
  bound := by simp
  value := Or.inl (by simp)

/-- A number of another object promotes the answer, so that from there on the answer is a built-in object. -/
theorem Promotes.append (distinct : T.Distinct) (promotes : T.Promotes os o) (b : Object ι) :
    T.Promotes (os ++ [b]) (T.joinNumbers o b) := by
  obtain ⟨a, mem, hrank⟩ := promotes.highest
  by_cases same : o = b
  · subst same
    rw [joinNumbers_self]
    refine ⟨⟨a, List.mem_append_left _ mem, hrank⟩, ?_, ?_⟩
    · intro c hc
      rcases List.mem_append.1 hc with hc | hc
      · exact promotes.bound c hc
      · obtain rfl := List.mem_singleton.1 hc
        exact Nat.le_refl _
    · rcases promotes.value with all | ⟨⟨c, hc, d, hd, differ⟩, hpromote⟩
      · left
        intro c hc
        rcases List.mem_append.1 hc with hc | hc
        · exact all c hc
        · exact List.mem_singleton.1 hc
      · exact Or.inr ⟨⟨c, List.mem_append_left _ hc, d, List.mem_append_left _ hd, differ⟩, hpromote⟩
  · have hmax := rank_joinNumbers_of_ne distinct same
    refine ⟨?_, ?_, Or.inr ⟨?_, (promote_joinNumbers_of_ne distinct same).symm⟩⟩
    · rw [hmax, Rank.max]
      split
      · exact ⟨b, by simp, rfl⟩
      · exact ⟨a, List.mem_append_left _ mem, hrank⟩
    · intro c hc
      rw [hmax, Rank.index_max]
      rcases List.mem_append.1 hc with hc | hc
      · exact Nat.le_trans (promotes.bound c hc) (Nat.le_max_left _ _)
      · rw [List.mem_singleton.1 hc]
        exact Nat.le_max_right _ _
    · rcases promotes.value with all | ⟨⟨c, hc, d, hd, differ⟩, -⟩
      · exact ⟨a, List.mem_append_left _ mem, b, by simp, all a mem ▸ same⟩
      · exact ⟨c, List.mem_append_left _ hc, d, List.mem_append_left _ hd, differ⟩

/-- Lists of the same numbers come to one object. -/
theorem Promotes.unique {os' : List (Object ι)} (promotes : T.Promotes os o) (promotes' : T.Promotes os' o')
    (same : ∀ a, a ∈ os ↔ a ∈ os') : o = o' := by
  obtain ⟨a, mem, hrank⟩ := promotes.highest
  obtain ⟨b, mem', hrank'⟩ := promotes'.highest
  have hindex : (T.rank o).index = (T.rank o').index := by
    apply Nat.le_antisymm
    · rw [← hrank]
      exact promotes'.bound a ((same a).1 mem)
    · rw [← hrank']
      exact promotes.bound b ((same b).2 mem')
  rcases promotes.value with all | ⟨⟨c, hc, d, hd, differ⟩, hpromote⟩
  · rcases promotes'.value with all' | ⟨⟨c, hc, d, hd, differ⟩, -⟩
    · rw [← all a mem]
      exact all' a ((same a).1 mem)
    · exact absurd ((all c ((same c).2 hc)).trans (all d ((same d).2 hd)).symm) differ
  · rcases promotes'.value with all' | ⟨-, hpromote'⟩
    · exact absurd ((all' c ((same c).1 hc)).trans (all' d ((same d).1 hd)).symm) differ
    · rw [hpromote, hpromote', promote, promote, Rank.index_injective hindex]

/-- The object that the numbers of a list come to is a number without entries itself. -/
theorem Promotes.numbers (promotes : T.Promotes (p.map Ty.object) o) (numbers : T.Numbers p) :
    T.isArithmetic o = true ∧ T.commonTypes o = [] := by
  rcases promotes.value with all | ⟨-, hpromote⟩
  · obtain ⟨a, mem, -⟩ := promotes.highest
    obtain ⟨t, ht, hobject⟩ := List.mem_map.1 mem
    rw [← all a mem, ← hobject]
    exact ⟨numbers.isArithmetic t ht, numbers.unregistered t ht⟩
  · rw [hpromote]
    exact ⟨T.isArithmetic_promoted _, commonTypes_promoted _⟩

section Distinct

variable (distinct : T.Distinct)

include distinct

/-- Numbers come to their common type. -/
theorem promotes_commonTypeOf (long : 2 ≤ p.length) (numbers : T.Numbers p) :
    T.Promotes (p.map Ty.object) (T.commonTypeOf p).object ∧ T.commonTypeOf p = .plain (T.commonTypeOf p).object := by
  have hpromotes : T.Promotes (p.map Ty.object) (T.commonTypeOf p).object ∧
      (2 ≤ p.length → T.commonTypeOf p = .plain (T.commonTypeOf p).object) := by
    refine commonTypeOf_induction (motive := fun q r => T.Promotes (q.map Ty.object) r.object ∧
      (2 ≤ q.length → r = .plain r.object)) long ?_ ?_
    · intro t _
      exact ⟨.single t.object, by simp⟩
    · rintro q u r initial ⟨promotes, -⟩
      have hsub : q ++ [u] ⊆ p := initial.subset
      obtain ⟨hr, unregistered⟩ := promotes.numbers (numbers.subset
        (List.map_subset _ (List.append_subset.1 hsub).1))
      have hu : T.isArithmetic u.object = true := numbers.isArithmetic u (hsub (by simp))
      rw [commonType_eq_joinNumbers distinct hr hu unregistered, List.map_append]
      exact ⟨promotes.append distinct u.object, fun _ => rfl⟩
  exact ⟨hpromotes.1, hpromotes.2 long⟩

/-- The common type of two or more numbers without entries is their object if they have one, and otherwise the built-in
object of the highest rank among them. A pack of the same objects has the same common type, whatever their order and
their decorations are. -/
theorem commonTypeOf_numbers (p : Pack ι) (long : 2 ≤ p.length) (numbers : T.Numbers p) :
    (∀ o, (∀ t ∈ p, t.object = o) → T.commonTypeOf p = .plain o) ∧
      (∃ t ∈ p, (∀ u ∈ p, (T.rank u.object).index ≤ (T.rank t.object).index) ∧
        ((∃ u ∈ p, ∃ v ∈ p, u.object ≠ v.object) → T.commonTypeOf p = .plain (T.promote t.object))) ∧
      ∀ q : Pack ι, (q.map Ty.object).Perm (p.map Ty.object) → T.commonTypeOf q = T.commonTypeOf p := by
  obtain ⟨promotes, hplain⟩ := promotes_commonTypeOf distinct long numbers
  obtain ⟨a, mem, hrank⟩ := promotes.highest
  obtain ⟨t, ht, rfl⟩ := List.mem_map.1 mem
  refine ⟨?_, ⟨t, ht, ?_, ?_⟩, ?_⟩
  · intro o all
    have single : T.Promotes [o] o := .single o
    rw [hplain, promotes.unique single]
    intro b
    rw [List.mem_map, List.mem_singleton]
    constructor
    · rintro ⟨u, hu, rfl⟩
      exact all u hu
    · rintro rfl
      exact ⟨t, ht, all t ht⟩
  · intro u hu
    rw [hrank]
    exact promotes.bound _ (List.mem_map_of_mem hu)
  · rintro ⟨u, hu, v, hv, differ⟩
    rw [hplain]
    rcases promotes.value with all | ⟨-, hpromote⟩
    · have hall : u.object = v.object :=
        (all _ (List.mem_map_of_mem hu)).trans (all _ (List.mem_map_of_mem hv)).symm
      exact absurd hall differ
    · rw [hpromote, promote, promote, hrank, ← promote, ← hpromote]
  · intro q perm
    have hlong : 2 ≤ q.length := by
      have hlength : q.length = p.length := by simpa using perm.length_eq
      rwa [hlength]
    obtain ⟨promotes', hplain'⟩ := promotes_commonTypeOf distinct hlong (numbers.subset perm.subset)
    rw [hplain, hplain', promotes'.unique promotes fun b => perm.mem_iff]

end Distinct

end Table

namespace Catalogue

/-- A number that is no built-in one and has the highest rank, one with a base that is a number, and a small one. -/
theorem commonTypeOf_numbers_wide :
    let p := [lvalue .odd, (value .wide).addConst, rvalue .u8]
    2 ≤ p.length ∧ separated.Numbers p ∧ separated.commonTypeOf p = value .i64 ∧
      (∃ t ∈ p, (∀ u ∈ p, (separated.rank u.object).index ≤ (separated.rank t.object).index) ∧
        separated.commonTypeOf p = .plain (separated.promote t.object)) ∧
      separated.commonTypeOf [(value .u8).addVolatile, value .odd, constLvalue .wide] = value .i64 ∧
      separated.commonTypeOf [lvalue .wide, rvalue .wide] = value .wide := by
  intro p
  have numbers : separated.Numbers p := ⟨by decide, by decide⟩
  have hvalue : separated.commonTypeOf p = value .i64 := by decide
  obtain ⟨-, ⟨t, mem, highest, hmixed⟩, hperm⟩ :=
    Table.commonTypeOf_numbers separated_distinct p (by decide) numbers
  obtain ⟨huniform, -⟩ := Table.commonTypeOf_numbers separated_distinct [lvalue .wide, rvalue .wide] (by decide)
    ⟨by decide, by decide⟩
  refine ⟨by decide, numbers, hvalue, ⟨t, mem, highest, hmixed (by decide)⟩, ?_, huniform _ (by decide)⟩
  rw [← hvalue]
  exact hperm _ (by decide)

end Catalogue

end Concord
