/-!
# Kinds of objects

A registered object is a class or an arithmetic object. After integral promotion the six arithmetic ranks are
linearly ordered by which of two operands decides the result of an operation.
-/

namespace Concord

/-- The rank of an arithmetic object after integral promotion. -/
inductive Rank where
  | int
  | uint
  | long
  | ulong
  | float
  | double
  deriving DecidableEq, Repr

namespace Rank

/-- The position of a rank in the order `int < uint < long < ulong < float < double`. -/
def index : Rank → Nat
  | int => 0
  | uint => 1
  | long => 2
  | ulong => 3
  | float => 4
  | double => 5

/-- The higher of two ranks. -/
def max (r s : Rank) : Rank := if r.index ≤ s.index then s else r

theorem index_injective {r s : Rank} (h : r.index = s.index) : r = s := by
  cases r <;> cases s <;> simp_all [index]

theorem index_max (r s : Rank) : (r.max s).index = Nat.max r.index s.index := by
  cases r <;> cases s <;> rfl

theorem max_comm (r s : Rank) : r.max s = s.max r :=
  index_injective (by rw [index_max, index_max]; exact Nat.max_comm _ _)

theorem max_assoc (r s t : Rank) : (r.max s).max t = r.max (s.max t) :=
  index_injective (by simp only [index_max]; exact Nat.max_assoc _ _ _)

@[simp] theorem max_self (r : Rank) : r.max r = r := by
  cases r <;> rfl

end Rank

/-- What a registered object is. -/
inductive Kind where
  /-- A class. -/
  | classType
  /-- A number type: integral or floating, signed or not, with the rank its values promote to. -/
  | arithmetic (integral signed : Bool) (rank : Rank)
  deriving DecidableEq, Repr

namespace Kind

def signedInteger (r : Rank) : Kind := .arithmetic true true r

def unsignedInteger (r : Rank) : Kind := .arithmetic true false r

def floating (r : Rank) : Kind := .arithmetic false true r

def isClass : Kind → Bool
  | classType => true
  | arithmetic .. => false

def isArithmetic : Kind → Bool
  | classType => false
  | arithmetic .. => true

def isIntegral : Kind → Bool
  | classType => false
  | arithmetic integral _ _ => integral

def isSigned : Kind → Bool
  | classType => false
  | arithmetic _ signed _ => signed

/-- A kind is unsigned if it is integral and not signed; a floating kind is neither. -/
def isUnsigned : Kind → Bool
  | classType => false
  | arithmetic integral signed _ => integral && !signed

/-- The promoted rank. A class counts as `int`. -/
def rank : Kind → Rank
  | classType => .int
  | arithmetic _ _ rank => rank

/-- The kind of the language's own number type of a rank. -/
def ofRank : Rank → Kind
  | .int => signedInteger .int
  | .uint => unsignedInteger .uint
  | .long => signedInteger .long
  | .ulong => unsignedInteger .ulong
  | .float => floating .float
  | .double => floating .double

@[simp] theorem isClass_ofRank (r : Rank) : (ofRank r).isClass = false := by
  cases r <;> rfl

@[simp] theorem rank_ofRank (r : Rank) : (ofRank r).rank = r := by
  cases r <;> rfl

@[simp] theorem isArithmetic_eq_not_isClass (k : Kind) : k.isArithmetic = !k.isClass := by
  cases k <;> rfl

end Kind

end Concord
