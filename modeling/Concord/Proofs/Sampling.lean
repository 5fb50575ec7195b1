import Concord.Identity.Encoding

/-!
# Sampling a text

The two ways to read the byte or the nibble at a position of an identity answer alike on all bytes and all 64-bit positions,
with the same overflow where there is one. Only long texts overflow, and only far outside the positions that are kept.
-/

namespace Concord

namespace Nibble

theorem ofNat_mod (n : Nat) : ofNat (n % 16) = ofNat n := by
  simp [ofNat, Fin.ofNat]

/-- The upper half of a byte is what is left of it after a shift. -/
theorem ofNat_shiftRight (b : UInt8) : ofNat (b >>> 4).toNat = high b := by
  have half : (b >>> 4).toNat = b.toNat / 16 := by
    rw [UInt8.toNat_shiftRight, Nat.shiftRight_eq_div_pow]
    rfl
  rw [half, high]

/-- The lower half of a byte is what a mask leaves of it. -/
theorem ofNat_and (b : UInt8) : ofNat (b &&& 0xF).toNat = low b := by
  have half : (b &&& 0xF).toNat = b.toNat % 16 := by
    rw [UInt8.toNat_and]
    exact Nat.and_two_pow_sub_one_eq_mod b.toNat 4
  rw [half, ofNat_mod, low]

end Nibble

namespace Sample

variable {len i n : UInt64}

/-- Where the sixteen bytes from the middle of a long text begin. -/
def middle (len : Nat) : Nat := (len - 16) / 2

/-- The place that a position shows of a text of `len` bytes, as a number without a bound. -/
def place (len i : Nat) : Nat :=
  if len ≤ 64 ∨ i < 32 then i else if i < 48 then middle len + (i - 32) else len - 16 + (i - 48)

section Place

variable {len i : Nat}

theorem place_of_short (short : len ≤ 64) (i : Nat) : place len i = i := if_pos (Or.inl short)

theorem place_of_front (len : Nat) (front : i < 32) : place len i = i := if_pos (Or.inr front)

theorem place_of_middle (long : 64 < len) (first : 32 ≤ i) (last : i < 48) :
    place len i = middle len + (i - 32) := by
  rw [place, if_neg (by omega), if_pos last]

theorem place_of_back (long : 64 < len) (first : 48 ≤ i) : place len i = len - 16 + (i - 48) := by
  rw [place, if_neg (by omega), if_neg (by omega)]

end Place

theorem toNat_sub_ofNat {w : UInt64} (c : Nat) (small : c < UInt64.size) (h : c ≤ w.toNat) :
    (w - UInt64.ofNat c).toNat = w.toNat - c := by
  have word : (UInt64.ofNat c).toNat = c := UInt64.toNat_ofNat_of_lt' small
  rw [UInt64.toNat_sub_of_le _ _ (by rwa [UInt64.le_iff_toNat_le, word]), word]

/-- The comparisons come to the place, if it is one of the word. -/
theorem Evaluated.index_eq_place (len i : UInt64) :
    Evaluated.index len i =
      if place len.toNat i.toNat < UInt64.size then .ok (.ofNat (place len.toNat i.toNat)) else .error .add := by
  have hi : i.toNat < UInt64.size := i.toNat_lt
  have h64 : len ≤ 64 ↔ len.toNat ≤ 64 := UInt64.le_iff_toNat_le
  have h32 : i < 32 ↔ i.toNat < 32 := UInt64.lt_iff_toNat_lt
  have h48 : i < 48 ↔ i.toNat < 48 := UInt64.lt_iff_toNat_lt
  simp only [Evaluated.index, h64, h32, h48]
  by_cases short : len.toNat ≤ 64
  · rw [if_pos short, place_of_short short, if_pos hi, UInt64.ofNat_toNat]
  · have long : 64 < len.toNat := Nat.lt_of_not_le short
    have hback : (len - 16).toNat = len.toNat - 16 := toNat_sub_ofNat 16 (by decide) (by omega)
    rw [if_neg short]
    by_cases front : i.toNat < 32
    · rw [if_pos front, place_of_front _ front, if_pos hi, UInt64.ofNat_toNat]
    · rw [if_neg front]
      by_cases hmiddle : i.toNat < 48
      · have hhalf : ((len - 16) / 2).toNat = middle len.toNat := by
          rw [UInt64.toNat_div, hback]
          rfl
        have hfront : (i - 32).toNat = i.toNat - 32 := toNat_sub_ofNat 32 (by decide) (by omega)
        rw [if_pos hmiddle, place_of_middle long (Nat.le_of_not_lt front) hmiddle]
        exact Word.add_of_toNat (by rw [hhalf, hfront])
      · have hfront : (i - 48).toNat = i.toNat - 48 := toNat_sub_ofNat 48 (by decide) (by omega)
        rw [if_neg hmiddle, place_of_back long (Nat.le_of_not_lt hmiddle)]
        exact Word.add_of_toNat (by rw [hback, hfront])

/-- Overflow is left to texts of more than 64 bytes, and there to the last positions of the word, as many as the text has
bytes more than 64. -/
theorem Evaluated.index_eq_error_iff {e : Overflow} :
    Evaluated.index len i = .error e ↔ 64 < len.toNat ∧ UInt64.size ≤ i.toNat + (len.toNat - 64) ∧ e = .add := by
  have hlen : len.toNat < UInt64.size := len.toNat_lt
  have hi : i.toNat < UInt64.size := i.toNat_lt
  have far : UInt64.size ≤ place len.toNat i.toNat ↔
      64 < len.toNat ∧ UInt64.size ≤ i.toNat + (len.toNat - 64) := by
    unfold place middle
    split
    · omega
    · split <;> omega
  rw [Evaluated.index_eq_place, ← and_assoc, ← far]
  split
  · rename_i fits
    simp [Nat.not_le.2 fits]
  · rename_i leaves
    simp [Nat.le_of_not_lt leaves, eq_comm]

/-- No position that is kept overflows. -/
theorem Evaluated.exists_index_eq_ok (h : i < 64) : ∃ k, Evaluated.index len i = .ok k := by
  cases hindex : Evaluated.index len i with
  | ok k => exact ⟨k, rfl⟩
  | error e =>
    have hi : i.toNat < 64 := h
    have hlen : len.toNat < UInt64.size := len.toNat_lt
    obtain ⟨hlong, hfar, -⟩ := Evaluated.index_eq_error_iff.1 hindex
    omega

/-- The window that shows a position is found by comparing the position with 48 and then with 32. -/
theorem Spelled.find?_windows (h : ¬ len ≤ 64) :
    (Spelled.windows len).find? (·.first ≤ i) =
      some (if i < 32 then ⟨0, 0⟩ else if i < 48 then ⟨32, (len - 16) / 2⟩ else ⟨48, len - 16⟩) := by
  have h48 : (48 : UInt64) ≤ i ↔ ¬ i < 48 := UInt64.not_lt.symm
  have h32 : (32 : UInt64) ≤ i ↔ ¬ i < 32 := UInt64.not_lt.symm
  have front : i < 32 → i < 48 := fun h => UInt64.lt_trans h (by decide)
  by_cases hfront : i < 32
  · simp [Spelled.windows, h, h48, h32, hfront, front hfront]
  · by_cases hmiddle : i < 48
    · simp [Spelled.windows, h, h48, h32, hfront, hmiddle]
    · simp [Spelled.windows, h, h48, hfront, hmiddle]

theorem add_zero_sub_zero (i : UInt64) : Word.add 0 (i - 0) = .ok i := by
  have fits : (0 : UInt64).toNat + i.toNat < UInt64.size := by
    simpa using i.toNat_lt
  rw [UInt64.sub_zero, Word.add, if_pos fits, UInt64.zero_add]

theorem Spelled.index_eq_evaluated (len i : UInt64) : Spelled.index len i = Evaluated.index len i := by
  unfold Spelled.index Evaluated.index
  by_cases h : len ≤ 64
  · have whole : (Spelled.windows len).find? (·.first ≤ i) = some ⟨0, 0⟩ := by
      simp [Spelled.windows, h]
    rw [whole, if_pos h]
    exact add_zero_sub_zero i
  · rw [Spelled.find?_windows h, if_neg h]
    by_cases hfront : i < 32
    · rw [if_pos hfront, if_pos hfront]
      exact add_zero_sub_zero i
    · rw [if_neg hfront, if_neg hfront]
      by_cases hmiddle : i < 48
      · rw [if_pos hmiddle, if_pos hmiddle]
      · rw [if_neg hmiddle, if_neg hmiddle]

theorem Spelled.byteAt_eq_evaluated (bytes : ByteArray) (i : UInt64) :
    Spelled.byteAt bytes i = Evaluated.byteAt bytes i := by
  rw [Spelled.byteAt, Spelled.index_eq_evaluated, Evaluated.byteAt]
  cases Evaluated.index bytes.size.toUInt64 i with
  | error e => rfl
  | ok k =>
    change Except.ok (bytes.data[k.toNat]?.getD 0) = if h : k.toNat < bytes.size then _ else _
    split
    · rename_i h
      rw [Array.getElem?_eq_getElem h]
      rfl
    · rename_i h
      rw [Array.getElem?_eq_none (Nat.le_of_not_lt h)]
      rfl

theorem Spelled.nibbleAt_eq_evaluated (bytes : ByteArray) (n : UInt64) :
    Spelled.nibbleAt bytes n = Evaluated.nibbleAt bytes n := by
  rw [Spelled.nibbleAt, Spelled.byteAt_eq_evaluated, Evaluated.nibbleAt]
  cases Evaluated.byteAt bytes (n / 2) with
  | error e => rfl
  | ok b =>
    change Except.ok _ = if n % 2 = 0 then _ else _
    rw [Nibble.ofNat_shiftRight, Nibble.ofNat_and]
    split <;> rfl

theorem Evaluated.exists_byteAt_eq_ok (bytes : ByteArray) (h : i < 64) : ∃ b, Evaluated.byteAt bytes i = .ok b := by
  obtain ⟨k, hk⟩ : ∃ k, Evaluated.index bytes.size.toUInt64 i = .ok k := Evaluated.exists_index_eq_ok h
  rw [Evaluated.byteAt, hk]
  by_cases hin : k.toNat < bytes.size
  · exact ⟨bytes[k.toNat], dif_pos hin⟩
  · exact ⟨0, dif_neg hin⟩

/-- A nibble that is kept is the upper or the lower half of a byte that is kept. -/
theorem Evaluated.nibbleAt_eq_ok {bytes : ByteArray} {b : UInt8} (h : Evaluated.byteAt bytes (n / 2) = .ok b) :
    Evaluated.nibbleAt bytes n = .ok (if n % 2 = 0 then Nibble.high b else Nibble.low b) := by
  rw [← Spelled.nibbleAt_eq_evaluated, Spelled.nibbleAt, Spelled.byteAt_eq_evaluated, h]
  rfl

end Sample

end Concord
