import Concord.Proofs.ExactIdentity

/-!
# Positions and their bounds

Which positions of a text can be asked for. A position below 64 shows a byte of the text as long as the text has one there;
all others show zero, but for those of which the place is no word. Nibbles are halves of bytes, and no half is so far out. Of
a hash the first sixteen nibbles can be asked for, and they make it up.
-/

namespace Concord

namespace Fnv

/-- From the sixteenth nibble on the shift leaves the word, and then the product that it is moved by. -/
theorem nibbleAt_eq_error (bytes : ByteArray) {n : UInt8} (h : 16 ≤ n.toNat) :
    nibbleAt bytes n = .error (if n.toNat < 64 then .shiftRight else .multiply) := by
  have four : (4 : UInt8).toNat = 4 := rfl
  rw [nibbleAt, Word.multiply, four]
  by_cases narrow : n.toNat < 64
  · have fits : n.toNat * 4 < UInt8.size := by
      change n.toNat * 4 < 256
      omega
    have amount : (n * 4).toNat = n.toNat * 4 := by
      rw [UInt8.toNat_mul, four]
      exact Nat.mod_eq_of_lt fits
    have wide : ¬ (n * 4).toNat < 64 := by omega
    rw [if_pos fits, if_pos narrow]
    change (Word.shiftRight (run bytes) (n * 4) >>= _) = _
    rw [Word.shiftRight, if_neg wide]
    rfl
  · have leaves : ¬ n.toNat * 4 < UInt8.size := by
      change ¬ n.toNat * 4 < 256
      omega
    rw [if_neg leaves, if_neg narrow]
    rfl

theorem exists_nibbleAt_eq_error_iff (bytes : ByteArray) (n : UInt8) :
    (∃ e, nibbleAt bytes n = .error e) ↔ 16 ≤ n.toNat := by
  constructor
  · rintro ⟨e, h⟩
    by_contra small
    rw [nibbleAt_eq_ok bytes (Nat.lt_of_not_le small)] at h
    contradiction
  · intro h
    exact ⟨_, nibbleAt_eq_error bytes h⟩

/-- The nibbles that can be asked for add up to the hash. -/
theorem exists_nibbles (bytes : ByteArray) :
    ∃ digits : Fin 16 → Nibble, (∀ n : Fin 16, nibbleAt bytes n.val.toUInt8 = .ok (digits n)) ∧
      (run bytes).toNat = ∑ n : Fin 16, (digits n).val * 16 ^ n.val := by
  refine ⟨digit (fold bytes.data.toList), Spelled.evaluated_digit bytes, ?_⟩
  rw [run_eq_fold]
  exact toNat_eq_sum_digits _

end Fnv

namespace Sample

/-- A position shows the byte at a place of the text, and the text has that place. -/
structure Shows (bytes : ByteArray) (i : UInt64) (k : Nat) : Prop where
  index_eq : (Evaluated.index bytes.size.toUInt64 i).map UInt64.toNat = .ok k
  lt_size : k < bytes.size
  byteAt_eq : Evaluated.byteAt bytes i = .ok bytes[k]

variable {bytes : ByteArray} {i : UInt64}

section Size

variable (size : bytes.size < UInt64.size)

include size

theorem toNat_size : bytes.size.toUInt64.toNat = bytes.size := UInt64.toNat_ofNat_of_lt' size

/-- The byte at a position is that at its place, if the place is one of the word. -/
theorem byteAt_eq_place :
    Evaluated.byteAt bytes i =
      if place bytes.size i.toNat < UInt64.size then .ok (bytes.data[place bytes.size i.toNat]?.getD 0)
      else .error .add := by
  rw [← Spelled.byteAt_eq_evaluated, Spelled.byteAt, Spelled.index_eq_evaluated, Evaluated.index_eq_place,
    toNat_size size]
  split
  · rename_i fits
    change Except.ok (bytes.data[(UInt64.ofNat _).toNat]?.getD 0) = _
    rw [UInt64.toNat_ofNat_of_lt' fits]
  · rfl

theorem shows_iff {k : Nat} : Shows bytes i k ↔ place bytes.size i.toNat = k ∧ k < bytes.size := by
  constructor
  · rintro ⟨index, inside, -⟩
    refine ⟨?_, inside⟩
    rw [Evaluated.index_eq_place, toNat_size size] at index
    split at index
    · rename_i fits
      rw [← Except.ok.inj index]
      exact (UInt64.toNat_ofNat_of_lt' fits).symm
    · contradiction
  · rintro ⟨rfl, inside⟩
    have fits : place bytes.size i.toNat < UInt64.size := Nat.lt_trans inside size
    refine ⟨?_, inside, ?_⟩
    · rw [Evaluated.index_eq_place, toNat_size size, if_pos fits]
      exact congrArg Except.ok (UInt64.toNat_ofNat_of_lt' fits)
    · rw [byteAt_eq_place size, if_pos fits, Array.getElem?_eq_getElem inside]
      rfl

theorem shows_front (long : 64 < bytes.size) (front : i.toNat < 32) : Shows bytes i i.toNat := by
  apply (shows_iff size).2
  exact ⟨place_of_front _ front, by omega⟩

theorem shows_middle (long : 64 < bytes.size) (first : 32 ≤ i.toNat) (last : i.toNat < 48) :
    Shows bytes i (middle bytes.size + (i.toNat - 32)) := by
  apply (shows_iff size).2
  refine ⟨place_of_middle long first last, ?_⟩
  unfold middle
  omega

theorem shows_back (long : 64 < bytes.size) (first : 48 ≤ i.toNat) (last : i.toNat < 64) :
    Shows bytes i (bytes.size - 16 + (i.toNat - 48)) := by
  apply (shows_iff size).2
  exact ⟨place_of_back long first, by omega⟩

theorem byteAt_eq_error_iff {e : Overflow} :
    Evaluated.byteAt bytes i = .error e ↔
      64 < bytes.size ∧ UInt64.size - (bytes.size - 64) ≤ i.toNat ∧ e = .add := by
  have hi : i.toNat < UInt64.size := i.toNat_lt
  have index : Evaluated.byteAt bytes i = .error e ↔ Evaluated.index bytes.size.toUInt64 i = .error e := by
    rw [← Spelled.byteAt_eq_evaluated, Spelled.byteAt, Spelled.index_eq_evaluated]
    cases Evaluated.index bytes.size.toUInt64 i with
    | ok k => simp [Except.map]
    | error e' => simp [Except.map]
  rw [index, Evaluated.index_eq_error_iff, toNat_size size, ← and_assoc, ← and_assoc]
  apply and_congr_left'
  omega

/-- The places from the readable range are in the text, and no others. -/
theorem exists_shows_iff : (∃ k, Shows bytes i k) ↔ i.toNat < min bytes.size 64 := by
  simp only [shows_iff size, exists_eq_left', place, middle]
  split
  · omega
  · split <;> omega

/-- Behind the readable range there is nothing to read, and where there is no overflow either the byte is zero. -/
theorem byteAt_eq_zero (behind : min bytes.size 64 ≤ i.toNat)
    (near : 64 < bytes.size → i.toNat < UInt64.size - (bytes.size - 64)) : Evaluated.byteAt bytes i = .ok 0 := by
  have hi : i.toNat < UInt64.size := i.toNat_lt
  have outside : bytes.size ≤ place bytes.size i.toNat ∧ place bytes.size i.toNat < UInt64.size := by
    unfold place middle
    split
    · omega
    · split <;> omega
  rw [byteAt_eq_place size, if_pos outside.2, Array.getElem?_eq_none outside.1]
  rfl

end Size

/-- A half of a byte is at a position below the first that overflows. -/
theorem exists_nibbleAt_eq_ok (size : bytes.size < 2 ^ 63) (n : UInt64) :
    ∃ d, Evaluated.nibbleAt bytes n = .ok d := by
  have half : (n / 2).toNat = n.toNat / 2 := by
    rw [UInt64.toNat_div]
    rfl
  have hn : n.toNat < 2 ^ 64 := n.toNat_lt
  have hsize : UInt64.size = 2 ^ 64 := rfl
  cases h : Evaluated.byteAt bytes (n / 2) with
  | ok b => exact ⟨_, Evaluated.nibbleAt_eq_ok h⟩
  | error e =>
    obtain ⟨long, far, -⟩ := (byteAt_eq_error_iff (by omega)).1 h
    omega

end Sample

open Sample in
/-- Of a text of less than `2 ^ 63` bytes every position below 64 can be asked for, and every nibble. A long text shows its
first 32 bytes, sixteen in a row before the last sixteen, and the last sixteen. Far out the place of a position is no word; the
others behind the readable range show zero. The nibbles of the hash that can be asked for are sixteen, and they add up to it.
The windows on a text answer alike. -/
theorem positions_bounded (bytes : ByteArray) (size : bytes.size < 2 ^ 63) :
    ((∀ i < 64, ∃ b, Evaluated.byteAt bytes i = .ok b) ∧
        (∀ i : UInt64, (∃ k, Shows bytes i k) ↔ i.toNat < min bytes.size 64) ∧
        (64 < bytes.size →
          (∀ i < 32, Shows bytes i i.toNat) ∧
            (middle bytes.size + 16 ≤ bytes.size - 16 ∧
              ∀ i, 32 ≤ i → i < 48 → Shows bytes i (middle bytes.size + (i.toNat - 32))) ∧
            ∀ i, 48 ≤ i → i < 64 → Shows bytes i (bytes.size - 16 + (i.toNat - 48)))) ∧
      (∀ (i : UInt64) (e : Overflow), Evaluated.byteAt bytes i = .error e ↔
        64 < bytes.size ∧ 2 ^ 64 - (bytes.size - 64) ≤ i.toNat ∧ e = .add) ∧
      (∀ i : UInt64, min bytes.size 64 ≤ i.toNat →
        (64 < bytes.size → i.toNat < 2 ^ 64 - (bytes.size - 64)) → Evaluated.byteAt bytes i = .ok 0) ∧
      (∀ n, ∃ d, Evaluated.nibbleAt bytes n = .ok d) ∧
      ((∀ i, Spelled.byteAt bytes i = Evaluated.byteAt bytes i) ∧
        ∀ n, Spelled.nibbleAt bytes n = Evaluated.nibbleAt bytes n) ∧
      (∀ n, (∃ e, Fnv.nibbleAt bytes n = .error e) ↔ 16 ≤ n.toNat) ∧
      ∃ digits : Fin 16 → Nibble, (∀ n : Fin 16, Fnv.nibbleAt bytes n.val.toUInt8 = .ok (digits n)) ∧
        (Fnv.run bytes).toNat = ∑ n : Fin 16, (digits n).val * 16 ^ n.val := by
  have word : bytes.size < UInt64.size := Nat.lt_trans size (by decide)
  refine ⟨⟨?_, ?_, ?_⟩, ?_, ?_, exists_nibbleAt_eq_ok size, ⟨Spelled.byteAt_eq_evaluated bytes,
    Spelled.nibbleAt_eq_evaluated bytes⟩, Fnv.exists_nibbleAt_eq_error_iff bytes, Fnv.exists_nibbles bytes⟩
  · intro i kept
    exact Evaluated.exists_byteAt_eq_ok bytes kept
  · intro i
    exact exists_shows_iff word
  · intro long
    refine ⟨?_, ⟨?_, ?_⟩, ?_⟩
    · intro i front
      exact shows_front word long front
    · unfold middle
      omega
    · intro i first last
      exact shows_middle word long first last
    · intro i first last
      exact shows_back word long first last
  · intro i e
    exact byteAt_eq_error_iff word
  · intro i behind near
    exact byteAt_eq_zero word behind near

open Sample in
/-- In a text of a hundred bytes, all windows, the zero behind them, and both sides of the first position that overflows. -/
theorem positions_bounded_hundred :
    let bytes : ByteArray := ⟨Array.ofFn fun i : Fin 100 => i.val.toUInt8⟩
    (bytes.size < 2 ^ 63 ∧ 64 < bytes.size) ∧
      (Shows bytes 31 31 ∧ Shows bytes 32 42 ∧ Shows bytes 63 99) ∧
      (Evaluated.byteAt bytes 64 = .ok 0 ∧ Evaluated.byteAt bytes 18446744073709551579 = .ok 0 ∧
        Evaluated.byteAt bytes 18446744073709551580 = .error .add) ∧
      (∃ d, Evaluated.nibbleAt bytes 18446744073709551615 = .ok d) ∧ ∃ e, Fnv.nibbleAt bytes 16 = .error e := by
  intro bytes
  have hsize : bytes.size = 100 := Array.size_ofFn
  have size : bytes.size < 2 ^ 63 := by rw [hsize]; decide
  have long : 64 < bytes.size := by rw [hsize]; decide
  obtain ⟨⟨-, -, windows⟩, overflows, zero, nibble, -, hash, -⟩ := positions_bounded bytes size
  obtain ⟨front, ⟨-, between⟩, back⟩ := windows long
  have hbetween : Shows bytes 32 (middle bytes.size + 0) := between 32 (by decide) (by decide)
  have hback : Shows bytes 63 (bytes.size - 16 + 15) := back 63 (by decide) (by decide)
  rw [hsize] at hbetween hback
  refine ⟨⟨size, long⟩, ⟨front 31 (by decide), hbetween, hback⟩, ⟨?_, ?_, ?_⟩, nibble _, (hash 16).2 (by decide)⟩
  · apply zero
    · rw [hsize]
      decide
    · rw [hsize]
      decide
  · apply zero
    · rw [hsize]
      decide
    · rw [hsize]
      decide
  · apply (overflows _ _).2
    rw [hsize]
    decide

end Concord
