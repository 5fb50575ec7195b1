import Concord.Catalogue.Basic
import Concord.Proofs.Encoding
import Concord.Proofs.Sameness
import Mathlib.Algebra.BigOperators.Fin
import Mathlib.Algebra.BigOperators.Intervals

/-!
# Identities of texts are exact

Objects that carry the streams and identities of texts count as the same one if and only if their hashes are equal and so
are the 64 bytes that are kept. Sixteen digits are a whole hash and two halves a whole byte, and the nibbles of a block are
compared once each. A text of at most 64 bytes is kept whole; if none of its bytes is zero, padding does not hide its end.
-/

namespace Concord

theorem ofFn_inj {α : Type} {n : Nat} {f g : Fin n → α} : Vector.ofFn f = Vector.ofFn g ↔ f = g := by
  rw [← Vector.toList_inj, Vector.toList_ofFn, Vector.toList_ofFn, List.ofFn_inj]

namespace NibbleStream

/-- Sixteen comparisons meet each nibble of a repeated block once. -/
theorem agree_cyclic_iff {block block' : Vector Nibble 16} :
    agree 16 (cyclic block) (cyclic block') = true ↔ block = block' := by
  rw [agree_iff]
  constructor
  · intro h
    ext i hi
    have place : (Nibble.ofNat i).val = i := Nat.mod_eq_of_lt hi
    have equal : block[(Nibble.ofNat i).val] = block'[(Nibble.ofNat i).val] := h i hi
    simp only [place] at equal
    rw [equal]
  · rintro rfl i _
    rfl

end NibbleStream

namespace Nibble

theorem high_low_inj {b c : UInt8} : high b = high c ∧ low b = low c ↔ b = c := by
  constructor
  · rintro ⟨hhigh, hlow⟩
    apply UInt8.toNat_inj.1
    rw [byte_eq_high_low b, byte_eq_high_low c, hhigh, hlow]
  · rintro rfl
    exact ⟨rfl, rfl⟩

end Nibble

namespace Fnv

/-- The lowest digits of a number in base sixteen make up what is left of it after division by a power. -/
theorem mod_pow_eq_sum_digits (n k : Nat) : n % 16 ^ k = ∑ i ∈ Finset.range k, n / 16 ^ i % 16 * 16 ^ i := by
  induction k with
  | zero => simp [Nat.mod_one]
  | succ k ih => rw [Nat.mod_pow_succ, ih, Finset.sum_range_succ, Nat.mul_comm (16 ^ k)]

theorem val_digit (hash : UInt64) (i : Fin 16) : (digit hash i).val = hash.toNat / 16 ^ i.val % 16 := by
  rw [digit, Nat.shiftRight_eq_div_pow, Nat.pow_mul]
  rfl

/-- The sixteen digits of a hash add up to it. -/
theorem toNat_eq_sum_digits (hash : UInt64) : hash.toNat = ∑ i : Fin 16, (digit hash i).val * 16 ^ i.val := by
  have bound : hash.toNat < 16 ^ 16 := hash.toNat_lt
  calc
    hash.toNat = hash.toNat % 16 ^ 16 := (Nat.mod_eq_of_lt bound).symm
    _ = ∑ i ∈ Finset.range 16, hash.toNat / 16 ^ i % 16 * 16 ^ i := mod_pow_eq_sum_digits _ _
    _ = ∑ i : Fin 16, hash.toNat / 16 ^ i.val % 16 * 16 ^ i.val :=
      (Fin.sum_univ_eq_sum_range (fun i => hash.toNat / 16 ^ i % 16 * 16 ^ i) 16).symm
    _ = ∑ i : Fin 16, (digit hash i).val * 16 ^ i.val := by simp only [val_digit]

theorem digits_inj {h h' : UInt64} : digits h = digits h' ↔ h = h' := by
  constructor
  · intro equal
    apply UInt64.toNat_inj.1
    rw [toNat_eq_sum_digits h, toNat_eq_sum_digits h', ofFn_inj.1 equal]
  · rintro rfl
    rfl

end Fnv

namespace Spelled

variable {s t : ByteArray}

theorem agree_stream_iff :
    NibbleStream.agree Table.streamNibbles (stream s) (stream t) = true ↔ Fnv.run s = Fnv.run t := by
  calc
    _ ↔ digits s = digits t := NibbleStream.agree_cyclic_iff
    _ ↔ Fnv.fold s.data.toList = Fnv.fold t.data.toList := Fnv.digits_inj
    _ ↔ Fnv.run s = Fnv.run t := by rw [Fnv.run_eq_fold, Fnv.run_eq_fold]

/-- The chunks cut the nibbles into rows of sixteen, which leave out no nibble. -/
theorem same_chunks_iff :
    Identity.same (chunks s) (chunks t) = true ↔ ∀ n < Identity.textNibbles, nibble s n = nibble t n := by
  have rows : Identity.same (chunks s) (chunks t) = true ↔ ∀ c < Identity.textChunks, chunk s c = chunk t c := by
    rw [Identity.same_iff, chunks, chunks, List.forall₂_map_left_iff, List.forall₂_map_right_iff, List.forall₂_same]
    simp only [List.mem_range]
    exact forall₂_congr fun c _ => NibbleStream.agree_cyclic_iff
  rw [rows]
  constructor
  · intro h n hn
    have kept : n / 16 < Identity.textChunks := Nat.div_lt_of_lt_mul hn
    have row := congrFun (ofFn_inj.1 (h (n / 16) kept)) (Fin.ofNat 16 n)
    have place : Identity.chunkNibbles * (n / 16) + (Fin.ofNat 16 n).val = n := Nat.div_add_mod n 16
    rwa [place] at row
  · intro h c hc
    exact ofFn_inj.2 (funext fun i => h _ (place_lt hc i))

theorem nibble_eq {b : UInt8} {n : Nat} (h : Sample.Evaluated.byteAt s (n.toUInt64 / 2) = .ok b) :
    nibble s n = if n.toUInt64 % 2 = 0 then Nibble.high b else Nibble.low b := by
  rw [nibble, Sample.Spelled.nibbleAt_eq_evaluated, Sample.Evaluated.nibbleAt_eq_ok h]
  rfl

/-- Both halves of the byte at a position that is kept are nibbles of the identity. -/
theorem nibble_halves {b : UInt8} {i : UInt64} (kept : i < 64) (h : Sample.Evaluated.byteAt s i = .ok b) :
    nibble s (2 * i.toNat) = Nibble.high b ∧ nibble s (2 * i.toNat + 1) = Nibble.low b := by
  have small : i.toNat < 64 := kept
  have word : ∀ k < 2, (2 * i.toNat + k).toUInt64.toNat = 2 * i.toNat + k := fun k hk =>
    UInt64.toNat_ofNat_of_lt' (Nat.lt_trans (by omega : 2 * i.toNat + k < 128) (by decide))
  have place : ∀ k < 2, (2 * i.toNat + k).toUInt64 / 2 = i := by
    intro k hk
    apply UInt64.toNat_inj.1
    rw [UInt64.toNat_div, word k hk]
    change (2 * i.toNat + k) / 2 = i.toNat
    omega
  have side : ∀ k < 2, ((2 * i.toNat + k).toUInt64 % 2 = 0 ↔ k = 0) := by
    intro k hk
    rw [← UInt64.toNat_inj, UInt64.toNat_mod, word k hk]
    change (2 * i.toNat + k) % 2 = 0 ↔ k = 0
    omega
  constructor
  · have upper := nibble_eq ((place 0 (by decide)).symm ▸ h)
    rwa [if_pos ((side 0 (by decide)).2 rfl)] at upper
  · have lower := nibble_eq ((place 1 (by decide)).symm ▸ h)
    rwa [if_neg fun even => Nat.one_ne_zero ((side 1 (by decide)).1 even)] at lower

theorem nibbles_iff :
    (∀ n < Identity.textNibbles, nibble s n = nibble t n) ↔
      ∀ i < 64, ∃ b, Sample.Evaluated.byteAt s i = .ok b ∧ Sample.Evaluated.byteAt t i = .ok b := by
  constructor
  · intro h i kept
    have small : i.toNat < 64 := kept
    obtain ⟨b, hb⟩ := Sample.Evaluated.exists_byteAt_eq_ok s kept
    obtain ⟨c, hc⟩ := Sample.Evaluated.exists_byteAt_eq_ok t kept
    obtain ⟨hhigh, hlow⟩ := nibble_halves kept hb
    obtain ⟨hhigh', hlow'⟩ := nibble_halves kept hc
    have upper : 2 * i.toNat < Identity.textNibbles := by
      change _ < 128
      omega
    have lower : 2 * i.toNat + 1 < Identity.textNibbles := by
      change _ < 128
      omega
    obtain rfl : b = c := by
      rw [← Nibble.high_low_inj, ← hhigh, ← hlow, ← hhigh', ← hlow']
      exact ⟨h _ upper, h _ lower⟩
    exact ⟨b, hb, hc⟩
  · intro h n hn
    obtain ⟨b, hs, ht⟩ := h _ (half_lt hn)
    rw [nibble_eq hs, nibble_eq ht]

end Spelled

namespace Sample

variable {bytes : ByteArray} {i : UInt64}

/-- A text of at most 64 bytes is kept as it is, with zeros behind it. -/
theorem Evaluated.byteAt_eq_getD (short : bytes.size ≤ 64) :
    Evaluated.byteAt bytes i = .ok (bytes.data[i.toNat]?.getD 0) := by
  have whole : bytes.size.toUInt64 ≤ 64 := by
    rw [UInt64.le_iff_toNat_le, Nat.toUInt64_eq, UInt64.toNat_ofNat_of_lt' (Nat.lt_of_le_of_lt short (by decide))]
    exact short
  rw [← Spelled.byteAt_eq_evaluated, Spelled.byteAt, Spelled.index_eq_evaluated, Evaluated.index, if_pos whole]
  rfl

end Sample

/-- Padding with zeros is not taken for the bytes of a text without zeros. -/
theorem getElem?_eq_of_getD_eq {a b : Array UInt8} (ha : 0 ∉ a) (hb : 0 ∉ b) {i : Nat}
    (h : a[i]?.getD 0 = b[i]?.getD 0) : a[i]? = b[i]? := by
  cases hx : a[i]? with
  | none =>
    cases hy : b[i]? with
    | none => rfl
    | some y =>
      have : (0 : UInt8) = y := by simpa [hx, hy] using h
      exact absurd (this ▸ Array.mem_of_getElem? hy) hb
  | some x =>
    cases hy : b[i]? with
    | none =>
      have : x = 0 := by simpa [hx, hy] using h
      exact absurd (this ▸ Array.mem_of_getElem? hx) ha
    | some y => simpa [hx, hy] using h

/-- Short texts without zeros are equal if the same bytes of them are kept. -/
theorem eq_of_kept_eq {s t : ByteArray} (hs : s.size ≤ 64) (ht : t.size ≤ 64) (hs0 : 0 ∉ s.data) (ht0 : 0 ∉ t.data)
    (h : ∀ i < 64, ∃ b, Sample.Evaluated.byteAt s i = .ok b ∧ Sample.Evaluated.byteAt t i = .ok b) : s = t := by
  apply ByteArray.ext
  apply Array.ext_getElem?
  intro i
  by_cases kept : i < 64
  · have word : i.toUInt64.toNat = i := UInt64.toNat_ofNat_of_lt' (Nat.lt_trans kept (by decide))
    have position : i.toUInt64 < 64 := by
      rw [UInt64.lt_iff_toNat_lt, word]
      exact kept
    obtain ⟨b, hb, hc⟩ := h _ position
    rw [Sample.Evaluated.byteAt_eq_getD hs, word] at hb
    rw [Sample.Evaluated.byteAt_eq_getD ht, word] at hc
    exact getElem?_eq_of_getD_eq hs0 ht0 (Except.ok.inj (hb.trans hc.symm))
  · rw [Array.getElem?_eq_none (Nat.le_trans hs (Nat.le_of_not_lt kept)),
      Array.getElem?_eq_none (Nat.le_trans ht (Nat.le_of_not_lt kept))]

namespace Table

variable {ι : Type}

/-- An object has the stream and the identity that one of the two encoders gives to some bytes. -/
structure Carries (T : Table ι) (o : Object ι) (bytes : ByteArray) : Prop where
  stream : T.stream o = Spelled.stream bytes ∨ Evaluated.stream bytes = .ok (T.stream o)
  identity : T.identity o = Spelled.chunks bytes ∨ Evaluated.chunks bytes = .ok (T.identity o)

namespace Carries

variable {T : Table ι} {a b o : Object ι} {bytes s t : ByteArray}

theorem stream_eq (h : T.Carries o bytes) : T.stream o = Spelled.stream bytes := by
  obtain spelled | evaluated := h.stream
  · exact spelled
  · rw [Spelled.evaluated_stream] at evaluated
    exact (Except.ok.inj evaluated).symm

theorem identity_eq (h : T.Carries o bytes) : T.identity o = Spelled.chunks bytes := by
  obtain spelled | evaluated := h.identity
  · exact spelled
  · rw [Spelled.evaluated_chunks] at evaluated
    exact (Except.ok.inj evaluated).symm

/-- An object whose stream and identity are what the expansions for a text denote carries the bytes of the text. -/
theorem of_denotes {operand : Source.Spelling} {text : String} {path : Source.TextOperand}
    (h : Source.Expansion.DenotesText operand text path)
    (stream : Source.Expansion.DenotesStream operand text (Source.Expansion.routing path) (T.stream o))
    (identity : Source.Expansion.DenotesIdentity operand text (Source.Expansion.identity path) (T.identity o)) :
    T.Carries o text.toUTF8 where
  stream := .inl ((Source.Expansion.denotesStream_routing_iff h).1 stream)
  identity := .inl ((Source.Expansion.denotesIdentity_identity_iff h).1 identity)

theorem sameObject_iff (ha : T.Carries a s) (hb : T.Carries b t) :
    T.sameObject a b = true ↔ Fnv.run s = Fnv.run t ∧
      ∀ i < 64, ∃ x, Sample.Evaluated.byteAt s i = .ok x ∧ Sample.Evaluated.byteAt t i = .ok x := by
  rw [sameObject_eq_and, Bool.and_eq_true, sameStream, sameIdentity, ha.stream_eq, hb.stream_eq, ha.identity_eq,
    hb.identity_eq, Spelled.agree_stream_iff, Spelled.same_chunks_iff, Spelled.nibbles_iff]

theorem sameObject_of_eq (ha : T.Carries a s) (hb : T.Carries b t) (equal : s = t) : T.sameObject a b = true := by
  subst equal
  rw [sameObject_eq_and, sameStream, sameIdentity, ha.stream_eq, hb.stream_eq, ha.identity_eq, hb.identity_eq,
    NibbleStream.agree_self, Identity.same_self, Bool.and_self]

end Carries

/-- Objects that carry streams and identities of texts are the same if and only if the hashes of the texts are equal and
so is each of the 64 bytes that are kept. One text is never told apart from itself, and short texts without a zero byte are
never confused, whatever their hashes are. -/
theorem identity_exact (T : Table ι) {a b : Object ι} {s t : ByteArray} (ha : T.Carries a s) (hb : T.Carries b t) :
    (T.sameObject a b = true ↔ Fnv.run s = Fnv.run t ∧
        ∀ i < 64, ∃ x, Sample.Evaluated.byteAt s i = .ok x ∧ Sample.Evaluated.byteAt t i = .ok x) ∧
      (s = t → T.sameObject a b = true) ∧
      (s.size ≤ 64 → t.size ≤ 64 → 0 ∉ s.data → 0 ∉ t.data → T.sameObject a b = true → s = t) := by
  refine ⟨ha.sameObject_iff hb, ha.sameObject_of_eq hb, ?_⟩
  intro hs ht hs0 ht0 same
  obtain ⟨-, kept⟩ := (ha.sameObject_iff hb).1 same
  exact eq_of_kept_eq hs ht hs0 ht0 kept

end Table

namespace Catalogue

theorem stream_path {i : Item} (h : registration i = bare i) : table.stream (object i) = Spelled.routing i.path := by
  rw [object, Table.stream, Table.field, registration_table, h]
  rfl

theorem identity_path {i : Item} (h : registration i = bare i) : table.identity (object i) = Spelled.identity i.path := by
  rw [object, Table.identity, Table.field, registration_table, h]
  rfl

open Source Expansion in
/-- Two paths that differ in one byte, one spelled as a literal and one as the value of another operand. -/
theorem identity_exact_paths :
    (table.Carries (object .aS) "a::S".toUTF8 ∧ table.Carries (object .bS) "b::S".toUTF8) ∧
      ("a::S".toUTF8.size ≤ 64 ∧ 0 ∉ "a::S".toUTF8.data) ∧ ("b::S".toUTF8.size ≤ 64 ∧ 0 ∉ "b::S".toUTF8.data) ∧
      table.sameObject (object .aS) (object .bS) = false ∧
      table.sameObject (object .aS) (object .aS) = true := by
  have ha : table.Carries (object .aS) "a::S".toUTF8 := ⟨.inl (stream_path rfl), .inl (identity_path rfl)⟩
  have hb : table.Carries (object .bS) "b::S".toUTF8 := by
    have path : DenotesText [.word "PATH"] "b::S" (.deferred [.word "PATH"]) := .deferred
    exact .of_denotes path ((denotesStream_routing_iff path).2 (stream_path rfl))
      ((denotesIdentity_identity_iff path).2 (identity_path rfl))
  have short : "a::S".toUTF8.size ≤ 64 := by decide
  have short' : "b::S".toUTF8.size ≤ 64 := by decide
  have nonzero : 0 ∉ "a::S".toUTF8.data := by decide +kernel
  have nonzero' : 0 ∉ "b::S".toUTF8.data := by decide +kernel
  have differ : "a::S".toUTF8 ≠ "b::S".toUTF8 := by decide
  obtain ⟨-, -, exact_on_short⟩ := Table.identity_exact table ha hb
  obtain ⟨-, same_of_eq, -⟩ := Table.identity_exact table ha ha
  refine ⟨⟨ha, hb⟩, ⟨short, nonzero⟩, ⟨short', nonzero'⟩, ?_, same_of_eq rfl⟩
  rw [← Bool.not_eq_true]
  intro same
  exact differ (exact_on_short short short' nonzero nonzero' same)

end Catalogue

end Concord
