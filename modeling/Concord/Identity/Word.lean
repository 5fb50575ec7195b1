/-!
# Checked word arithmetic

Positions and shift amounts are machine words. Where a result does not fit, the operation is an error that names the
operation, never a wrapped value.
-/

namespace Concord

/-- The operations whose result can leave its word. -/
inductive Overflow where
  | add
  | multiply
  | shiftRight
  deriving DecidableEq, Repr

namespace Overflow

/-- The report of an overflow. -/
def message : Overflow → String
  | add => "attempt to add with overflow"
  | multiply => "attempt to multiply with overflow"
  | shiftRight => "attempt to shift right with overflow"

end Overflow

namespace Word

/-- The sum of two 64-bit words, if it is one. -/
def add (a b : UInt64) : Except Overflow UInt64 :=
  if a.toNat + b.toNat < UInt64.size then .ok (a + b) else .error .add

/-- The product of two 8-bit words, if it is one. -/
def multiply (a b : UInt8) : Except Overflow UInt8 :=
  if a.toNat * b.toNat < UInt8.size then .ok (a * b) else .error .multiply

/-- A 64-bit word moved right by an amount below its width. -/
def shiftRight (a : UInt64) (amount : UInt8) : Except Overflow UInt64 :=
  if amount.toNat < 64 then .ok (a >>> amount.toUInt64) else .error .shiftRight

/-- Whether a sum is one, and which, is read off the sum of the numbers. -/
theorem add_of_toNat {a b : UInt64} {n : Nat} (h : a.toNat + b.toNat = n) :
    add a b = if n < UInt64.size then .ok (.ofNat n) else .error .add := by
  rw [add, h, ← h, UInt64.ofNat_add, UInt64.ofNat_toNat, UInt64.ofNat_toNat]

end Word

end Concord
