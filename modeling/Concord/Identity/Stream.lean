/-!
# Streams of nibbles

Objects are told apart by endless streams of four-bit digits, of which only an initial segment is ever compared. A
stream is its sequence of digits; a block of sixteen digits gives the stream that repeats it.
-/

namespace Concord

/-- A four-bit digit. -/
abbrev Nibble := Fin 16

namespace Nibble

/-- The entry of a sixteen-slot table that a nibble selects. -/
def pick {α : Type} (n : Nibble) (slots : Vector α 16) : α := slots[n]

/-- The lowest digit in base sixteen of a number. -/
def ofNat (n : Nat) : Nibble := Fin.ofNat 16 n

/-- The nibble zero. -/
def zero : Nibble := ofNat 0

/-- The upper half of a byte. -/
def high (b : UInt8) : Nibble := ofNat (b.toNat / 16)

/-- The lower half of a byte. -/
def low (b : UInt8) : Nibble := ofNat b.toNat

/-- The lower-case hexadecimal digit of a nibble. -/
def digit (n : Nibble) : Char := Nat.digitChar n

theorem byte_eq_high_low (b : UInt8) : b.toNat = 16 * (high b).val + (low b).val := by
  have h : b.toNat < 256 := b.toNat_lt
  simp only [high, low, ofNat, Fin.ofNat]
  omega

end Nibble

/-- An endless sequence of nibbles. -/
@[ext]
structure NibbleStream where
  /-- The nibble at a position. -/
  nibbleAt : Nat → Nibble

namespace NibbleStream

/-- The stream that repeats one nibble. -/
def constant (n : Nibble) : NibbleStream := ⟨fun _ => n⟩

/-- The stream that repeats a block of sixteen nibbles. -/
def cyclic (block : Vector Nibble 16) : NibbleStream := ⟨fun i => block.get (Nibble.ofNat i)⟩

def head (s : NibbleStream) : Nibble := s.nibbleAt 0

def tail (s : NibbleStream) : NibbleStream := ⟨fun i => s.nibbleAt (i + 1)⟩

/-- The first `n` nibbles. -/
def take (s : NibbleStream) (n : Nat) : List Nibble := (List.range n).map s.nibbleAt

/-- The next `count` nibbles of both streams from position `i` on agree. -/
def agreeFrom (s t : NibbleStream) : Nat → Nat → Bool
  | 0, _ => true
  | count + 1, i => s.nibbleAt i == t.nibbleAt i && agreeFrom s t count (i + 1)

/-- The first `n` nibbles of both streams agree. -/
def agree (n : Nat) (s t : NibbleStream) : Bool := agreeFrom s t n 0

theorem agreeFrom_iff {s t : NibbleStream} {count i : Nat} :
    agreeFrom s t count i = true ↔ ∀ k < count, s.nibbleAt (i + k) = t.nibbleAt (i + k) := by
  induction count generalizing i with
  | zero => simp [agreeFrom]
  | succ count ih =>
    simp only [agreeFrom, Bool.and_eq_true, beq_iff_eq, ih]
    constructor
    · rintro ⟨h, hs⟩ k hk
      cases k with
      | zero => exact h
      | succ k =>
        have := hs k (by omega)
        rwa [Nat.add_right_comm] at this
    · intro h
      refine ⟨h 0 (by omega), fun k hk => ?_⟩
      have := h (k + 1) (by omega)
      rwa [← Nat.add_assoc, Nat.add_right_comm] at this

theorem agree_iff {n : Nat} {s t : NibbleStream} : agree n s t = true ↔ ∀ i < n, s.nibbleAt i = t.nibbleAt i := by
  simp [agree, agreeFrom_iff]

@[simp] theorem agree_self (n : Nat) (s : NibbleStream) : agree n s s = true :=
  agree_iff.2 fun _ _ => rfl

/-- Agreement is agreement of the heads and of the tails. -/
theorem agree_succ (n : Nat) (s t : NibbleStream) :
    agree (n + 1) s t = (s.head == t.head && agree n s.tail t.tail) := by
  rw [Bool.eq_iff_iff, Bool.and_eq_true, beq_iff_eq, agree_iff, agree_iff]
  constructor
  · intro h
    exact ⟨h 0 (by omega), fun i hi => h (i + 1) (by omega)⟩
  · rintro ⟨h, hs⟩ i hi
    cases i with
    | zero => exact h
    | succ i => exact hs i (by omega)

end NibbleStream

end Concord
