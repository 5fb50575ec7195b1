import Concord.Proofs.PackConversion

/-!
# Common types bound their packs

Conversions do not compose: a class that derives from a number converts to that number, but not to the ones the number
converts to. Where only bases relate objects and classes have classes for bases this does not happen, so each element of
a pack follows the answer of a left fold through all later steps, along bases or as a number that is promoted. The common
type of classes is then the most basic of them.
-/

namespace Concord

namespace Table

variable {ι : Type}

/-- Every base of a class is a class. -/
def ClassBased (T : Table ι) : Prop := ∀ d, T.isClass d = true → ∀ b ∈ T.bases d, T.isClass b = true

/-- Values of the object `a` come to the object `o`: along bases, or as a number that is promoted. -/
def ComesTo (T : Table ι) (a o : Object ι) : Prop :=
  T.Derives a o ∨ (T.isArithmetic a = true ∧ ∃ rank, o = T.promoted rank)

/-- All elements of a pack come to the object `o`, which is that of one of them if they are classes. -/
structure Bounds (T : Table ι) (p : Pack ι) (o : Object ι) : Prop where
  valid : ∀ t ∈ p, t.valid = true
  comesTo : ∀ t ∈ p, T.ComesTo t.object o
  mem : (∀ t ∈ p, T.isClass t.object = true) → ∃ t ∈ p, o = t.object

variable {T : Table ι} {p q : Pack ι} {t u : Ty ι} {a b o o' : Object ι}

theorem Derives.isClass (based : T.ClassBased) (derives : T.Derives a b) (h : T.isClass a = true) :
    T.isClass b = true :=
  derives.preserves based h

/-- No class leads to a number. -/
theorem Derives.isArithmetic (based : T.ClassBased) (derives : T.Derives a b) (h : T.isArithmetic b = true) :
    T.isArithmetic a = true := by
  cases a with
  | nonesuch =>
      rcases derives_iff.1 derives with same | ⟨c, base, -⟩
      · rwa [same]
      · exact absurd base List.not_mem_nil
  | registered i =>
      rw [T.isArithmetic_registered, Bool.not_eq_true', ← Bool.not_eq_true]
      intro hclass
      have hb := derives.isClass based hclass
      rw [T.isClass_eq_false_of_isArithmetic h] at hb
      contradiction

theorem Bounds.single (valid : t.valid = true) : T.Bounds [t] t.object where
  valid := by simpa using valid
  comesTo := by simp [ComesTo, Derives.refl]
  mem _ := ⟨t, List.mem_singleton_self t, rfl⟩

section PartialOrder

variable (acyclic : T.Acyclic) (distinct : T.Distinct)

include acyclic distinct

theorem MeetAt.comesTo (meet : T.MeetAt a b o) : T.ComesTo a o := by
  cases meet with
  | base left _ _ => exact Or.inl ((sameOrDerived_iff acyclic distinct).1 left)
  | number left _ promoted => exact Or.inr ⟨left, _, promoted⟩

/-- A number that values were promoted to has no bases, and what derives from a number that is promoted is a number. -/
theorem ComesTo.trans (based : T.ClassBased) (first : T.ComesTo a b) (second : T.ComesTo b o) : T.ComesTo a o := by
  rcases first with derives | ⟨ha, rank, rfl⟩
  · rcases second with derives' | ⟨hb, rank, rfl⟩
    · exact Or.inl (derives.trans derives')
    · exact Or.inr ⟨derives.isArithmetic based hb, rank, rfl⟩
  · rcases second with derives' | ⟨-, rank', rfl⟩
    · exact Or.inr ⟨ha, rank, sameOrDerived_promoted distinct ((sameOrDerived_iff acyclic distinct).2 derives')⟩
    · exact Or.inr ⟨ha, rank', rfl⟩

theorem ComesTo.convertible (ht : t.valid = true) (ho : o.valid = true) (steady : t.cv.isVolatile = false)
    (comesTo : T.ComesTo t.object o) : T.convertible t (.plain o) = true := by
  have standard : T.standardConvertible t o = true := by
    rw [standardConvertible_iff (volatileClass_of_cv steady), sameOrDerived_iff acyclic distinct]
    refine comesTo.imp_right ?_
    rintro ⟨number, rank, rfl⟩
    exact ⟨number, T.isArithmetic_promoted rank⟩
  rw [convertible_plain, ht, ho, valueConvertible_of_standardConvertible standard]
  rfl

/-- What the answer so far and one more element meet at bounds the elements so far and this one. -/
theorem Bounds.append (based : T.ClassBased) (bounds : T.Bounds q o) (hu : u.valid = true)
    (meet : T.MeetAt o u.object o') : T.Bounds (q ++ [u]) o' where
  valid := by
    intro t mem
    rcases List.mem_append.1 mem with mem | mem
    · exact bounds.valid t mem
    · rwa [List.mem_singleton.1 mem]
  comesTo := by
    intro t mem
    rcases List.mem_append.1 mem with mem | mem
    · exact (bounds.comesTo t mem).trans acyclic distinct based (meet.comesTo acyclic distinct)
    · rw [List.mem_singleton.1 mem]
      exact meet.symm.comesTo acyclic distinct
  mem := by
    intro classes
    obtain ⟨t, mem, rfl⟩ := bounds.mem fun t mem => classes t (List.mem_append_left _ mem)
    cases meet with
    | base _ _ side =>
        rcases side with rfl | rfl
        · exact ⟨t, List.mem_append_left _ mem, rfl⟩
        · exact ⟨u, by simp, rfl⟩
    | number left _ _ =>
        have hclass := classes t (List.mem_append_left _ mem)
        rw [T.isClass_eq_false_of_isArithmetic left] at hclass
        contradiction

/-- The common type of a pack has an object that bounds it, and no decoration. -/
theorem bounds_commonTypeOf (free : T.ConversionFree) (unregistered : ∀ o, T.commonTypes o = []) (based : T.ClassBased)
    (long : 2 ≤ p.length) (valid : (T.commonTypeOf p).valid = true) :
    T.Bounds p (T.commonTypeOf p).object ∧ T.commonTypeOf p = .plain (T.commonTypeOf p).object := by
  have hbounds : (T.commonTypeOf p).valid = true → T.Bounds p (T.commonTypeOf p).object ∧
      (2 ≤ p.length → T.commonTypeOf p = .plain (T.commonTypeOf p).object) := by
    refine commonTypeOf_induction (motive := fun q r => r.valid = true → T.Bounds q r.object ∧
      (2 ≤ q.length → r = .plain r.object)) long ?_ ?_
    · intro t _ valid
      exact ⟨.single valid, by simp⟩
    · intro q u r _ ih valid
      obtain ⟨hr, hu⟩ := valid_of_commonType valid
      have hentry : (T.commonTypeEntry r.decay u.decay).valid = false := valid_commonTypeEntry_of_nil (unregistered _)
      have meet := commonType_meetAt distinct free hentry valid
      exact ⟨(ih hr).1.append acyclic distinct based hu meet, fun _ => commonType_eq_plain hentry⟩
  obtain ⟨bounds, plain⟩ := hbounds valid
  exact ⟨bounds, plain long⟩

/-- Where only bases relate objects and classes have classes for bases, all elements of a pack without volatile types
convert to its common type. That of classes is one of them, which all of them are or derive from. -/
theorem convertible_commonTypeOf (free : T.ConversionFree) (unregistered : ∀ o, T.commonTypes o = [])
    (based : T.ClassBased) (p : Pack ι) (steady : ∀ t ∈ p, t.cv.isVolatile = false)
    (valid : (T.commonTypeOf p).valid = true) :
    (∀ t ∈ p, T.convertible t (T.commonTypeOf p) = true) ∧
      ((∀ t ∈ p, T.isClass t.object = true) →
        ∃ t ∈ p, T.commonTypeOf p = .plain t.object ∧ ∀ u ∈ p, T.Derives u.object t.object) := by
  obtain ⟨bounds, hplain⟩ : T.Bounds p (T.commonTypeOf p).object ∧
      T.commonTypeOf p = .plain (T.commonTypeOf p).object := by
    match p, valid with
    | [t], valid =>
        -- One element has the common type of the pack that it is in twice.
        obtain ⟨bounds, hplain⟩ :=
          bounds_commonTypeOf acyclic distinct free unregistered based (p := [t, t]) (by simp) valid
        exact ⟨⟨by simpa using bounds.valid, by simpa using bounds.comesTo, by simpa using bounds.mem⟩, hplain⟩
    | t :: u :: p, valid => exact bounds_commonTypeOf acyclic distinct free unregistered based (by simp) valid
  rw [hplain]
  constructor
  · intro t mem
    exact (bounds.comesTo t mem).convertible acyclic distinct (bounds.valid t mem) valid (steady t mem)
  · intro classes
    obtain ⟨t, mem, hobject⟩ := bounds.mem classes
    refine ⟨t, mem, by rw [hobject], ?_⟩
    intro u hu
    rw [← hobject]
    rcases bounds.comesTo u hu with derives | ⟨number, -⟩
    · exact derives
    · have hclass := classes u hu
      rw [T.isClass_eq_false_of_isArithmetic number] at hclass
      contradiction

end PartialOrder

end Table

namespace Catalogue

/-- The items without conversions and without entries for common types. No class has a number for a base. -/
def tieredRegistration (i : Item) : Registration Item :=
  match i with
  | .intLike => bare .intLike
  | i => { registration i with convertsTo := [], convertsFrom := [], commonTypes := [] }

/-- The catalogue under numbers, with bases and entries for common references only. -/
def tiered : Table Item :=
  numbered tieredRegistration (fun r => by cases r <;> constructor <;> rfl) (by constructor <;> rfl)

theorem tiered_distinct : tiered.Distinct := numbered_distinct

theorem tiered_acyclic : tiered.Acyclic := by
  apply numbered_acyclic
  intro i
  cases i <;> decide

theorem tiered_conversionFree : tiered.ConversionFree where
  convertsTo o := by
    cases o with
    | nonesuch => rfl
    | registered i => cases i <;> rfl
  convertsFrom o := by
    cases o with
    | nonesuch => rfl
    | registered i => cases i <;> rfl

theorem tiered_commonTypes (o : Object Item) : tiered.commonTypes o = [] := by
  cases o with
  | nonesuch => rfl
  | registered i => cases i <;> rfl

theorem tiered_classBased : tiered.ClassBased := by
  intro d
  cases d with
  | nonesuch => simp [Table.bases, Table.field]
  | registered i => cases i <;> decide

/-- Classes that meet at a base which is none of the first one's direct ones, and numbers of which one has another for its
base. -/
theorem convertible_commonTypeOf_diamond :
    let p := [constLvalue .diamond, rvalue .dRight, value .mixin]
    let q := [lvalue .odd, value .u8, constLvalue .wide]
    (tiered.ConversionFree ∧ (∀ o, tiered.commonTypes o = []) ∧ tiered.ClassBased) ∧
      ((∀ t ∈ p, t.cv.isVolatile = false) ∧ ∀ t ∈ q, t.cv.isVolatile = false) ∧
      (tiered.commonTypeOf p = value .mixin ∧ tiered.commonTypeOf q = value .i64) ∧
      tiered.convertible (constLvalue .diamond) (tiered.commonTypeOf p) = true ∧
      (∃ t ∈ p, tiered.commonTypeOf p = .plain t.object ∧ ∀ u ∈ p, tiered.Derives u.object t.object) ∧
      tiered.convertible (lvalue .odd) (tiered.commonTypeOf q) = true := by
  intro p q
  have steady : ∀ t ∈ p, t.cv.isVolatile = false := by decide
  have steady' : ∀ t ∈ q, t.cv.isVolatile = false := by decide
  have hp : tiered.commonTypeOf p = value .mixin := by decide
  have hq : tiered.commonTypeOf q = value .i64 := by decide
  obtain ⟨hconvertible, hclasses⟩ := Table.convertible_commonTypeOf tiered_acyclic tiered_distinct
    tiered_conversionFree tiered_commonTypes tiered_classBased p steady (by rw [hp]; decide)
  obtain ⟨hconvertible', -⟩ := Table.convertible_commonTypeOf tiered_acyclic tiered_distinct
    tiered_conversionFree tiered_commonTypes tiered_classBased q steady' (by rw [hq]; decide)
  exact ⟨⟨tiered_conversionFree, tiered_commonTypes, tiered_classBased⟩, ⟨steady, steady'⟩, ⟨hp, hq⟩,
    hconvertible _ (by decide), hclasses (by decide), hconvertible' _ (by decide)⟩

end Catalogue

end Concord
