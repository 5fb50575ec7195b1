import Concord.Catalogue.Numbered
import Concord.Proofs.Derivation
import Concord.Proofs.Joins
import Mathlib.Order.Defs.Unbundled

/-!
# Derivation as an order

The search for bases ends on every list, with the same answer for every number of levels from the depth of the table on.
It decides the closure of the direct bases, which is a partial order on objects. With the order of qualifiers on top, the
types that bind to each other are preordered.
-/

namespace Concord

namespace Table

variable {ι : Type} {T : Table ι} {a b c : Object ι} {t u v : Ty ι}

section Closure

variable (acyclic : T.Acyclic)

include acyclic

/-- More levels than the depth do not change the answer. -/
theorem search?_eq_reaches {levels : Nat} (deep : T.depth ≤ levels) (list : List (Object ι)) (o : Object ι) :
    T.search? levels list o = some (T.reaches list o) := by
  have hlevels : T.members.length < ([] : List (Object ι)).length + levels := by
    simp only [depth, List.length_nil] at deep ⊢
    omega
  obtain ⟨found, hsearch, hfound⟩ := (Trail.nil list).search? acyclic hlevels o
  have hreaches : found = T.reaches list o := by
    rw [Bool.eq_iff_iff, hfound, reaches_iff acyclic]
  rw [hsearch, hreaches]

variable (distinct : T.Distinct)

include distinct

theorem reaches_iff_derives {list : List (Object ι)} :
    T.reaches list b = true ↔ ∃ h ∈ list, T.Derives h b := by
  simp [reaches_iff acyclic, distinct.sameObject_iff]

theorem anyBaseOf_iff_derives {list : List (Object ι)} :
    T.anyBaseOf list a = true ↔ ∃ h ∈ list, T.Derives a h := by
  simp [anyBaseOf, sameOrDerived_iff acyclic distinct]

/-- Strict derivation takes at least one step. -/
theorem isDerived_iff : T.isDerived a b = true ↔ ∃ d ∈ T.bases a, T.Derives d b :=
  reaches_iff_derives acyclic distinct

theorem isDerived_irrefl (a : Object ι) : ¬ T.isDerived a a = true := by
  rw [isDerived_iff acyclic distinct]
  rintro ⟨d, base, back⟩
  exact acyclic a d base back

theorem isDerived_trans (hab : T.isDerived a b = true) (hbc : T.isDerived b c = true) :
    T.isDerived a c = true := by
  rw [isDerived_iff acyclic distinct] at *
  obtain ⟨d, base, hdb⟩ := hab
  obtain ⟨e, next, hec⟩ := hbc
  exact ⟨d, base, hdb.trans (.step next hec)⟩

/-- What binds to a type binds to whatever that type binds to. -/
theorem refCompatible_trans (htu : T.refCompatible t u = true) (huv : T.refCompatible u v = true) :
    T.refCompatible t v = true := by
  simp only [refCompatible, refRelated, Bool.and_eq_true] at htu huv
  apply refCompatible_of_covers
  · exact sameOrDerived_trans acyclic distinct htu.1 huv.1
  · exact Cv.covers_trans huv.2 htu.2

/-- The search for bases ends on every list and finds what the elements lead to by steps to direct bases; an object has a
base among some objects if it leads to one of them. Derivation is a partial order, strict derivation a strict one, and
binding a preorder. -/
theorem derivation_isPartialOrder :
    (∀ list o levels, T.depth ≤ levels → T.search? levels list o = some (T.reaches list o)) ∧
      (∀ list o, T.reaches list o = true ↔ ∃ h ∈ list, T.Derives h o) ∧
      (∀ list o, T.anyBaseOf list o = true ↔ ∃ h ∈ list, T.Derives o h) ∧
      IsPartialOrder (Object ι) (T.sameOrDerived · · = true) ∧
      IsStrictOrder (Object ι) (T.isDerived · · = true) ∧
      IsPreorder (Ty ι) (T.refCompatible · · = true) := by
  refine ⟨?_, ?_, ?_, ?_, ?_, ?_⟩
  · intro list o levels deep
    exact search?_eq_reaches acyclic deep list o
  · intro list o
    exact reaches_iff_derives acyclic distinct
  · intro list o
    exact anyBaseOf_iff_derives acyclic distinct
  · exact
      { refl := T.sameOrDerived_self
        trans := fun _ _ _ => sameOrDerived_trans acyclic distinct
        antisymm := fun _ _ => sameOrDerived_antisymm acyclic distinct }
  · exact
      { irrefl := isDerived_irrefl acyclic distinct
        trans := fun _ _ _ => isDerived_trans acyclic distinct }
  · exact
      { refl := refCompatible_self
        trans := fun _ _ _ => refCompatible_trans acyclic distinct }

end Closure

end Table

namespace Catalogue

/-- A class with two ways to one base, and binding along a chain of bases under ever more qualifiers. -/
theorem derivation_isPartialOrder_diamond :
    (separated.Acyclic ∧ separated.Distinct) ∧
      separated.search? (separated.depth + 1) [.registered .diamond] (.registered .grand) = some true ∧
      separated.Derives (.registered .diamond) (.registered .grand) ∧
      (∃ h ∈ [Object.registered .mode, .registered .mixin], separated.Derives (.registered .diamond) h) ∧
      separated.sameOrDerived (.registered .grand) (.registered .diamond) = false ∧
      separated.isDerived (.registered .leaf) (.registered .grand) = true ∧
      separated.refCompatible (lvalue .leaf) (.build (.registered .grand) .constVolatile .lvalue) = true := by
  obtain ⟨hsearch, hreaches, hany, horder, hstrict, hbinds⟩ :=
    Table.derivation_isPartialOrder separated_acyclic separated_distinct
  have hfound : separated.reaches [.registered .diamond] (.registered .grand) = true := by decide
  have hderives : separated.Derives (.registered .diamond) (.registered .grand) := by
    simpa using (hreaches _ _).1 hfound
  refine ⟨⟨separated_acyclic, separated_distinct⟩, ?_, hderives, ?_, ?_, ?_, ?_⟩
  · rw [hsearch _ _ _ (Nat.le_succ _), hfound]
  · exact (hany _ _).1 (by decide)
  · rw [← Bool.not_eq_true]
    intro back
    have hsame : Object.registered Item.grand = .registered .diamond := horder.antisymm _ _ back (by decide)
    contradiction
  · exact hstrict.trans _ (.registered .parent) _ (by decide) (by decide)
  · exact hbinds.trans _ (constLvalue .parent) _ (by decide) (by decide)

end Catalogue

end Concord
