import Concord.Identity.Basic
import Concord.Kind
import Concord.Ty.Transform

/-!
# Registration tables

A table says of each registered object what it is and what it declares: its identity, its kind, its direct bases, its
implicit conversions in both directions, its operators and calls, and its entries for common types and common
references. Every rule of the library reads a table; none changes one. The sentinel declares nothing.
-/

namespace Concord

/-- A call signature. -/
structure Signature (ι : Type) where
  parameters : List (Ty ι)
  result : Ty ι

/-- The result of an entry for common references, given both operands. -/
inductive ReferenceRule (ι : Type) where
  /-- The same type for all operands. -/
  | always (t : Ty ι)
  /-- A type that takes on the decorations of the first operand. -/
  | withFirst (t : Ty ι)
  /-- A type that takes on the decorations of the second operand. -/
  | withSecond (t : Ty ι)

namespace ReferenceRule

variable {ι : Type}

/-- The result of the rule for the operands `t` and `u`. -/
def apply (rule : ReferenceRule ι) (t u : Ty ι) : Ty ι :=
  match rule with
  | always x => x
  | withFirst x => t.crossReference x
  | withSecond x => u.crossReference x

end ReferenceRule

/-- What one object registers. -/
structure Registration (ι : Type) where
  /-- The name that is shown for the object. -/
  title : String
  stream : NibbleStream
  identity : Identity
  kind : Kind := .classType
  /-- The direct bases. -/
  bases : List (Object ι) := []
  /-- The objects that this one implicitly converts to. -/
  convertsTo : List (Object ι) := []
  /-- The objects that implicitly convert to this one. -/
  convertsFrom : List (Object ι) := []
  /-- The objects that this one compares with for equality. -/
  equality : List (Object ι) := []
  /-- The objects that this one is ordered with. -/
  ordering : List (Object ι) := []
  calls : List (Signature ι) := []
  /-- The common types with other objects; of two entries for one object the first counts. -/
  commonTypes : List (Object ι × Ty ι) := []
  /-- The common references with other objects; of two entries for one object the first counts. -/
  commonReferences : List (Object ι × ReferenceRule ι) := []

/-- The registration of a number type of the language itself: its kind is given, and it declares nothing. -/
structure Registration.Builtin {ι : Type} (r : Registration ι) (k : Kind) : Prop where
  kind_eq : r.kind = k
  bases_eq : r.bases = []
  convertsTo_eq : r.convertsTo = []
  convertsFrom_eq : r.convertsFrom = []
  equality_eq : r.equality = []
  ordering_eq : r.ordering = []
  calls_eq : r.calls = []
  commonTypes_eq : r.commonTypes = []
  commonReferences_eq : r.commonReferences = []

/-- The registrations of finitely many objects, with the objects that the language itself relies on. -/
structure Table (ι : Type) where
  registration : ι → Registration ι
  /-- Every registered object. -/
  members : List ι
  mem_members : ∀ i, i ∈ members
  /-- The object that values of a rank have after promotion. -/
  promoted : Rank → Object ι
  promoted_builtin : ∀ r, ∃ i, promoted r = .registered i ∧ (registration i).Builtin (.ofRank r)
  /-- The object of truth values. -/
  truth : Object ι
  truth_builtin : ∃ i, truth = .registered i ∧ (registration i).Builtin (.unsignedInteger .int)

namespace Table

variable {ι : Type} (T : Table ι)

/-- The value of a field of the registration of an object, or a default for the sentinel. -/
def field {α : Type} (read : Registration ι → α) (absent : α) : Object ι → α
  | .nonesuch => absent
  | .registered i => read (T.registration i)

def title : Object ι → String := T.field Registration.title "nonesuch"

/-- The routing stream of an object; the sentinel has a stream of zeros. -/
def stream : Object ι → NibbleStream := T.field Registration.stream (.constant Nibble.zero)

/-- The identity of an object; the sentinel has one without chunks. -/
def identity : Object ι → Identity := T.field Registration.identity .done

def bases : Object ι → List (Object ι) := T.field Registration.bases []

def convertsTo : Object ι → List (Object ι) := T.field Registration.convertsTo []

def convertsFrom : Object ι → List (Object ι) := T.field Registration.convertsFrom []

def equality : Object ι → List (Object ι) := T.field Registration.equality []

def ordering : Object ι → List (Object ι) := T.field Registration.ordering []

def calls : Object ι → List (Signature ι) := T.field Registration.calls []

def commonTypes : Object ι → List (Object ι × Ty ι) := T.field Registration.commonTypes []

def commonReferences : Object ι → List (Object ι × ReferenceRule ι) :=
  T.field Registration.commonReferences []

def isClass : Object ι → Bool := T.field (·.kind.isClass) false

def isArithmetic : Object ι → Bool := T.field (·.kind.isArithmetic) false

def isIntegral : Object ι → Bool := T.field (·.kind.isIntegral) false

def isSigned : Object ι → Bool := T.field (·.kind.isSigned) false

def isUnsigned : Object ι → Bool := T.field (·.kind.isUnsigned) false

/-- The promoted rank of an object; it is `int` for all that is not arithmetic. -/
def rank : Object ι → Rank := T.field (·.kind.rank) .int

/-- The object that an object promotes to. -/
def promote (o : Object ι) : Object ι := T.promoted (T.rank o)

/-- The result of the usual arithmetic conversions: the built-in object of the higher rank. -/
def usualArithmetic (a b : Object ι) : Object ι := T.promoted ((T.rank a).max (T.rank b))

/-- The number of nibbles of the routing streams that are compared. -/
def streamNibbles : Nat := 16

/-- The routing streams of two objects agree. -/
def sameStream (a b : Object ι) : Bool := NibbleStream.agree streamNibbles (T.stream a) (T.stream b)

/-- The identities of two objects agree. -/
def sameIdentity (a b : Object ι) : Bool := Identity.same (T.identity a) (T.identity b)

/-- Two objects count as the same one. Their identities are compared only where their streams agree. -/
def sameObject (a b : Object ι) : Bool :=
  Identity.sameWhere (T.sameStream a b) (T.identity a) (T.identity b)

/-- Two types denote the same type, however they are spelled. -/
def isSame (t u : Ty ι) : Bool := T.sameObject t.object u.object && (t.cv == u.cv && t.kind == u.kind)

/-- Distinct objects are never taken for the same one. -/
def Distinct : Prop := ∀ a b, T.sameObject a b = true → a = b

theorem sameObject_eq_and (a b : Object ι) :
    T.sameObject a b = (T.sameStream a b && T.sameIdentity a b) := rfl

@[simp] theorem sameObject_self (a : Object ι) : T.sameObject a a = true := by
  simp [sameObject_eq_and, sameStream, sameIdentity]

@[simp] theorem isSame_self (t : Ty ι) : T.isSame t t = true := by
  simp [isSame]

variable {T} in
theorem Distinct.sameObject_iff (distinct : T.Distinct) {a b : Object ι} :
    T.sameObject a b = true ↔ a = b := by
  constructor
  · exact distinct a b
  · rintro rfl
    exact T.sameObject_self a

variable {T} in
theorem Distinct.sameObject_eq_false (distinct : T.Distinct) {a b : Object ι} (differ : a ≠ b) :
    T.sameObject a b = false := by
  rwa [← Bool.not_eq_true, distinct.sameObject_iff]

variable {T} in
theorem Distinct.sameObject_comm (distinct : T.Distinct) (a b : Object ι) :
    T.sameObject a b = T.sameObject b a := by
  rw [Bool.eq_iff_iff, distinct.sameObject_iff, distinct.sameObject_iff]
  exact eq_comm

variable {T} in
/-- Two canonical spellings of one type are the same spelling. -/
theorem Distinct.eq_of_isSame (distinct : T.Distinct) {t u : Ty ι} (ht : t.Canonical) (hu : u.Canonical)
    (h : T.isSame t u = true) : t = u := by
  simp only [isSame, Bool.and_eq_true, distinct.sameObject_iff, beq_iff_eq] at h
  obtain ⟨hobject, hcv, hkind⟩ := h
  rw [← Ty.canon_eq_of_canonical ht, ← Ty.canon_eq_of_canonical hu, Ty.canon, Ty.canon, hobject, hcv, hkind]

@[simp] theorem isArithmetic_registered (i : ι) :
    T.isArithmetic (.registered i) = !T.isClass (.registered i) := by
  simp [isArithmetic, isClass, field]

/-- The sentinel is of no kind. -/
theorem valid_of_field {read : Registration ι → Bool} {o : Object ι} (h : T.field read false o = true) :
    o.valid = true := by
  cases o with
  | nonesuch => contradiction
  | registered _ => rfl

theorem valid_of_isClass {o : Object ι} (h : T.isClass o = true) : o.valid = true := T.valid_of_field h

theorem valid_of_isArithmetic {o : Object ι} (h : T.isArithmetic o = true) : o.valid = true := T.valid_of_field h

theorem valid_of_isIntegral {o : Object ι} (h : T.isIntegral o = true) : o.valid = true := T.valid_of_field h

theorem isClass_eq_false_of_isArithmetic {o : Object ι} (h : T.isArithmetic o = true) : T.isClass o = false := by
  cases o with
  | nonesuch => rfl
  | registered _ => simpa using h

theorem isArithmetic_promoted (r : Rank) : T.isArithmetic (T.promoted r) = true := by
  obtain ⟨i, hi, builtin⟩ := T.promoted_builtin r
  rw [hi]
  simp [isArithmetic, field, builtin.kind_eq]

theorem isArithmetic_usualArithmetic (a b : Object ι) : T.isArithmetic (T.usualArithmetic a b) = true :=
  T.isArithmetic_promoted _

theorem usualArithmetic_comm (a b : Object ι) : T.usualArithmetic a b = T.usualArithmetic b a := by
  rw [usualArithmetic, usualArithmetic, Rank.max_comm]

@[simp] theorem rank_promoted (r : Rank) : T.rank (T.promoted r) = r := by
  obtain ⟨i, hi, builtin⟩ := T.promoted_builtin r
  rw [hi]
  simp [rank, field, builtin.kind_eq]

/-- The higher of two ranks is not exceeded by either of them. -/
theorem usualArithmetic_absorb (a b : Object ι) :
    T.usualArithmetic a (T.usualArithmetic a b) = T.usualArithmetic a b := by
  rw [usualArithmetic, usualArithmetic, rank_promoted, ← Rank.max_assoc, Rank.max_self]

/-- The first entry of a list that is keyed on the same object as `o`. -/
def entry? {α : Type} (entries : List (Object ι × α)) (o : Object ι) : Option α :=
  (entries.find? fun e => T.sameObject e.1 o).map (·.2)

end Table

end Concord
