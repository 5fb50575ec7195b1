import Concord.Table.Derivation
import Mathlib.Data.List.Basic

/-!
# The search for bases decides derivation

Without cycles the objects on a way through bases lists are pairwise distinct, so no way is longer than the list of
members and the bounded search gets to the end of every list. Its answer is then the reflexive and transitive closure of
the direct bases. Where objects are told apart, this closure is a partial order.
-/

namespace Concord

namespace Table

variable {ι : Type} {T : Table ι}

theorem derives_iff {d o : Object ι} : T.Derives d o ↔ d = o ∨ ∃ b ∈ T.bases d, T.Derives b o := by
  constructor
  · intro h
    cases h with
    | refl => exact Or.inl rfl
    | step base rest => exact Or.inr ⟨_, base, rest⟩
  · rintro (rfl | ⟨b, base, rest⟩)
    · exact .refl d
    · exact .step base rest

/-- What objects pass on to their direct bases, they pass on to all that they lead to. -/
theorem Derives.preserves {motive : Object ι → Prop} (bases : ∀ d, motive d → ∀ b ∈ T.bases d, motive b)
    {d o : Object ι} (derives : T.Derives d o) (h : motive d) : motive o := by
  induction derives with
  | refl => exact h
  | step base _ ih => exact ih (bases _ h _ base)

variable (T) in
/-- The objects gone through, the last one first, on a way to each element of `list`. None occurs twice. -/
structure Trail (path list : List (Object ι)) : Prop where
  nodup : path.Nodup
  valid : ∀ a ∈ path, a.valid = true
  leads : ∀ a ∈ path, ∀ h ∈ list, ∃ b ∈ T.bases a, T.Derives b h

theorem Trail.nil (list : List (Object ι)) : T.Trail [] list :=
  ⟨List.nodup_nil, by simp, by simp⟩

/-- A trail has at most as many objects as the table has members. -/
theorem Trail.length_le {path list : List (Object ι)} (trail : T.Trail path list) :
    path.length ≤ T.members.length := by
  have hsub : path ⊆ T.members.map Object.registered := by
    intro a ha
    cases a with
    | nonesuch => exact absurd (trail.valid _ ha) (by simp)
    | registered i => exact List.mem_map_of_mem (T.mem_members i)
  simpa using trail.nodup.length_le_of_subset hsub

/-- A trail to an object goes on to its bases. An object that is met again would be among the bases of its own bases. -/
theorem Trail.cons (acyclic : T.Acyclic) {path list : List (Object ι)} (trail : T.Trail path list)
    {h : Object ι} (mem : h ∈ list) (valid : h.valid = true) : T.Trail (h :: path) (T.bases h) where
  nodup := by
    refine List.nodup_cons.2 ⟨?_, trail.nodup⟩
    intro hpath
    obtain ⟨b, base, back⟩ := trail.leads h hpath h mem
    exact acyclic h b base back
  valid := by
    intro a ha
    rcases List.mem_cons.1 ha with rfl | ha
    · exact valid
    · exact trail.valid a ha
  leads := by
    intro a ha g hg
    rcases List.mem_cons.1 ha with rfl | ha
    · exact ⟨g, hg, .refl g⟩
    · obtain ⟨b, base, rest⟩ := trail.leads a ha h mem
      exact ⟨b, base, rest.trans (.of_mem_bases hg)⟩

/-- One level of the search asks each element and joins the answers. -/
theorem search?_succ {depth : Nat} {o : Object ι} {found : Object ι → Bool} {list : List (Object ι)}
    (answers : ∀ h ∈ list, T.search? depth (T.bases h) o = some (found h)) :
    T.search? (depth + 1) list o = some (list.any fun h => T.sameObject h o || found h) := by
  have hmap : (list.mapM fun h => (T.search? depth (T.bases h) o).map (T.sameObject h o || ·)) =
      some (list.map fun h => T.sameObject h o || found h) := by
    induction list with
    | nil => rfl
    | cons h rest ih =>
        have hrest := ih fun g hg => answers g (List.mem_cons_of_mem h hg)
        rw [List.mapM_cons, answers h (List.mem_cons_self ..), hrest]
        rfl
  rw [search?, hmap]
  simp [List.any_map]

/-- With more levels than members are left the search answers, and it answers whether some element leads to `o`. -/
theorem Trail.search? (acyclic : T.Acyclic) {path list : List (Object ι)} (trail : T.Trail path list)
    {depth : Nat} (deep : T.members.length < path.length + depth) (o : Object ι) :
    ∃ found, T.search? depth list o = some found ∧
      (found = true ↔ ∃ h ∈ list, ∃ x, T.Derives h x ∧ T.sameObject x o = true) := by
  induction depth generalizing path list with
  | zero =>
      have := trail.length_le
      omega
  | succ depth ih =>
      have hbases : ∀ h ∈ list, ∃ found, T.search? depth (T.bases h) o = some found ∧
          (found = true ↔ ∃ b ∈ T.bases h, ∃ x, T.Derives b x ∧ T.sameObject x o = true) := by
        intro h mem
        cases valid : h.valid with
        | true =>
            apply ih (trail.cons acyclic mem valid)
            simp only [List.length_cons]
            omega
        | false =>
            obtain rfl := Object.valid_eq_false_iff.1 valid
            exact ⟨false, by simp [Table.bases, field], by simp [Table.bases, field]⟩
      choose! found hfound using hbases
      refine ⟨_, search?_succ fun h mem => (hfound h mem).1, ?_⟩
      simp only [List.any_eq_true, Bool.or_eq_true]
      constructor
      · rintro ⟨h, mem, same | rest⟩
        · exact ⟨h, mem, h, .refl h, same⟩
        · obtain ⟨b, base, x, hx, same⟩ := (hfound h mem).2.1 rest
          exact ⟨h, mem, x, .step base hx, same⟩
      · rintro ⟨h, mem, x, hx, same⟩
        rcases derives_iff.1 hx with rfl | ⟨b, base, rest⟩
        · exact ⟨h, mem, Or.inl same⟩
        · exact ⟨h, mem, Or.inr ((hfound h mem).2.2 ⟨b, base, x, rest, same⟩)⟩

/-- The search never runs out of levels, and it finds exactly what the elements lead to. -/
theorem reaches_iff (acyclic : T.Acyclic) {list : List (Object ι)} {o : Object ι} :
    T.reaches list o = true ↔ ∃ h ∈ list, ∃ x, T.Derives h x ∧ T.sameObject x o = true := by
  have deep : T.members.length < ([] : List (Object ι)).length + T.depth := by
    simp [depth]
  obtain ⟨found, hsearch, hfound⟩ := (Trail.nil list).search? acyclic deep o
  simpa [reaches, hsearch] using hfound

section PartialOrder

variable (acyclic : T.Acyclic) (distinct : T.Distinct)

include acyclic

theorem Derives.antisymm {a b : Object ι} (hab : T.Derives a b) (hba : T.Derives b a) : a = b := by
  rcases derives_iff.1 hab with rfl | ⟨c, base, rest⟩
  · rfl
  · exact absurd (rest.trans hba) (acyclic a c base)

include distinct

theorem sameOrDerived_iff {a b : Object ι} : T.sameOrDerived a b = true ↔ T.Derives a b := by
  rw [derives_iff, sameOrDerived, isDerived, Bool.or_eq_true, distinct.sameObject_iff, reaches_iff acyclic]
  simp [distinct.sameObject_iff]

theorem sameOrDerived_trans {a b c : Object ι} (hab : T.sameOrDerived a b = true)
    (hbc : T.sameOrDerived b c = true) : T.sameOrDerived a c = true := by
  rw [sameOrDerived_iff acyclic distinct] at *
  exact hab.trans hbc

theorem sameOrDerived_antisymm {a b : Object ι} (hab : T.sameOrDerived a b = true)
    (hba : T.sameOrDerived b a = true) : a = b := by
  rw [sameOrDerived_iff acyclic distinct] at *
  exact Derives.antisymm acyclic hab hba

end PartialOrder

end Table

end Concord
