import Concord.Identity.Stream
import Concord.Identity.Word

/-!
# The routing hash

FNV-1a on 64-bit words. It is defined twice: `fold` runs over the list of bytes, `run` walks an array by position as
code evaluated at the place of use does. `run_eq_fold` says that they agree. The hash is read as sixteen nibbles, the
lowest first, again in two ways: as base-16 digits of the number and by checked shifts of the word.
-/

namespace Concord

namespace Fnv

def offset : UInt64 := 0xcbf29ce484222325

def prime : UInt64 := 0x100000001b3

/-- One byte is mixed into the hash. -/
def mix (hash : UInt64) (byte : UInt8) : UInt64 := (hash ^^^ byte.toUInt64) * prime

/-- The hash of a list of bytes. -/
def fold (bytes : List UInt8) : UInt64 := bytes.foldl mix offset

/-- The hash of the bytes from position `i` on, starting from `hash`. -/
def runFrom (bytes : ByteArray) (i : Nat) (hash : UInt64) : UInt64 :=
  if h : i < bytes.size then runFrom bytes (i + 1) ((hash ^^^ bytes[i].toUInt64) * prime) else hash
termination_by bytes.size - i

/-- The hash of a byte array. -/
def run (bytes : ByteArray) : UInt64 := runFrom bytes 0 offset

theorem runFrom_eq_foldl (bytes : ByteArray) (i : Nat) (hash : UInt64) :
    runFrom bytes i hash = (bytes.data.toList.drop i).foldl mix hash := by
  fun_induction runFrom bytes i hash with
  | case1 i hash h ih =>
    have hi : i < bytes.data.toList.length := by simpa using h
    rw [ih, List.drop_eq_getElem_cons hi, List.foldl_cons]
    rfl
  | case2 i hash h =>
    have hi : bytes.data.toList.length ≤ i := by simpa using Nat.le_of_not_lt h
    rw [List.drop_eq_nil_of_le hi, List.foldl_nil]

/-- Both ways to hash agree on every text. -/
theorem run_eq_fold (bytes : ByteArray) : run bytes = fold bytes.data.toList := by
  rw [run, runFrom_eq_foldl, List.drop_zero, fold]

/-- The digit of weight `16 ^ i` of a hash. -/
def digit (hash : UInt64) (i : Fin 16) : Nibble := Nibble.ofNat (hash.toNat >>> (4 * i.val))

/-- The sixteen digits of a hash, the lowest first. -/
def digits (hash : UInt64) : Vector Nibble 16 := Vector.ofFn (digit hash)

/-- Nibble `n` of the hash of `bytes`, by a shift of `4 * n` places. Both the product and the shift are checked. -/
def nibbleAt (bytes : ByteArray) (n : UInt8) : Except Overflow Nibble := do
  let amount ← Word.multiply n 4
  let moved ← Word.shiftRight (run bytes) amount
  return Nibble.ofNat (moved &&& 0xF).toNat

end Fnv

end Concord
