import Concord.Proofs.Sampling
import Concord.Source.Expansion.Denotation
import Mathlib.Data.List.FinRange

/-!
# Both encoders of a text agree

The nibbles of a literal are computed where the expansion is written, those of another operand where it is used, and not by
the same code: a fold stands against a walk by position, a list of windows against comparisons, quotients against shifts.
An expansion denotes the same stream and the same identity on both paths.
-/

namespace Concord

namespace Fnv

/-- No shift that is asked for below the sixteenth nibble overflows, and it leaves the digit that a quotient leaves. -/
theorem nibbleAt_eq_ok (bytes : ByteArray) {n : UInt8} (h : n.toNat < 16) :
    nibbleAt bytes n = .ok (digit (fold bytes.data.toList) ⟨n.toNat, h⟩) := by
  have fits : n.toNat * (4 : UInt8).toNat < UInt8.size := by
    change n.toNat * 4 < 256
    omega
  have amount : (n * 4).toNat = 4 * n.toNat := by
    rw [UInt8.toNat_mul, Nat.mod_eq_of_lt fits, Nat.mul_comm]
    rfl
  have narrow : (n * 4).toNat < 64 := by omega
  rw [nibbleAt, Word.multiply, if_pos fits]
  change (Word.shiftRight (run bytes) (n * 4) >>= _) = _
  rw [Word.shiftRight, if_pos narrow]
  change Except.ok (Nibble.ofNat (run bytes >>> (n * 4).toUInt64 &&& 0xF).toNat) = _
  have moved : (run bytes >>> (n * 4).toUInt64).toNat = (run bytes).toNat >>> (4 * n.toNat) := by
    rw [UInt64.toNat_shiftRight, UInt8.toNat_toUInt64, amount, Nat.mod_eq_of_lt (amount ▸ narrow)]
  have masked : (run bytes >>> (n * 4).toUInt64 &&& 0xF).toNat = (run bytes).toNat >>> (4 * n.toNat) % 16 := by
    rw [UInt64.toNat_and, moved]
    exact Nat.and_two_pow_sub_one_eq_mod _ 4
  rw [masked, Nibble.ofNat_mod, run_eq_fold, digit]

end Fnv

/-- A traversal in which no element overflows. -/
theorem mapM_eq_ok {α β : Type} {f : α → Except Overflow β} {g : α → β} {l : List α} (h : ∀ x ∈ l, f x = .ok (g x)) :
    l.mapM f = .ok (l.map g) := by
  induction l with
  | nil => rfl
  | cons x l ih =>
    rw [List.mapM_cons, h x List.mem_cons_self, ih fun y hy => h y (List.mem_cons_of_mem x hy)]
    rfl

/-- A block in which no element overflows. -/
theorem ofFnM_eq_ok {β : Type} {n : Nat} {f : Fin n → Except Overflow β} {g : Fin n → β} (h : ∀ i, f i = .ok (g i)) :
    Vector.ofFnM f = .ok (Vector.ofFn g) := by
  rw [funext h]
  exact Vector.ofFnM_pure

theorem map_range_eq_ofFn {α : Type} (n : Nat) (f : Nat → α) : (List.range n).map f = List.ofFn fun i : Fin n => f i := by
  rw [← List.map_coe_finRange_eq_range, List.map_map, List.ofFn_eq_map]
  rfl

namespace Spelled

variable (bytes : ByteArray)

/-- The nibbles of an identity are halves of bytes that are kept. -/
theorem half_lt {n : Nat} (h : n < Identity.textNibbles) : n.toUInt64 / 2 < 64 := by
  have word : n.toUInt64.toNat = n := UInt64.toNat_ofNat_of_lt' (Nat.lt_trans h (by decide))
  rw [UInt64.lt_iff_toNat_lt, UInt64.toNat_div, word]
  exact Nat.div_lt_of_lt_mul h

/-- No nibble of an identity overflows. -/
theorem evaluated_nibbleAt {n : Nat} (h : n < Identity.textNibbles) :
    Sample.Evaluated.nibbleAt bytes n.toUInt64 = .ok (nibble bytes n) := by
  obtain ⟨b, hb⟩ := Sample.Evaluated.exists_byteAt_eq_ok bytes (half_lt h)
  rw [nibble, Sample.Spelled.nibbleAt_eq_evaluated, Sample.Evaluated.nibbleAt_eq_ok hb]
  rfl

theorem evaluated_digit (i : Fin 16) :
    Fnv.nibbleAt bytes i.val.toUInt8 = .ok (Fnv.digit (Fnv.fold bytes.data.toList) i) := by
  have word : i.val.toUInt8.toNat = i := UInt8.toNat_ofNat_of_lt' (Nat.lt_trans i.isLt (by decide))
  rw [Fnv.nibbleAt_eq_ok bytes (word.symm ▸ i.isLt)]
  congr

theorem evaluated_stream : Evaluated.stream bytes = .ok (stream bytes) := by
  rw [Evaluated.stream, ofFnM_eq_ok (evaluated_digit bytes)]
  rfl

theorem place_lt {c : Nat} (h : c < Identity.textChunks) (i : Fin 16) :
    Identity.chunkNibbles * c + i < Identity.textNibbles := by
  have := i.isLt
  simp only [Identity.textNibbles, Identity.textChunks, Identity.chunkNibbles] at *
  omega

theorem evaluated_chunk {c : Nat} (h : c < Identity.textChunks) :
    Evaluated.chunk bytes c = .ok (.cyclic (chunk bytes c)) := by
  rw [Evaluated.chunk, ofFnM_eq_ok fun i => evaluated_nibbleAt bytes (place_lt h i)]
  rfl

theorem evaluated_chunks : Evaluated.chunks bytes = .ok (chunks bytes) :=
  mapM_eq_ok fun _ mem => evaluated_chunk bytes (List.mem_range.1 mem)

theorem evaluated_hashNibbles (text : String) : Evaluated.hashNibbles text = .ok (hashBlock text).toList := by
  rw [Evaluated.hashNibbles, ← List.map_coe_finRange_eq_range, List.mapM_map]
  refine (mapM_eq_ok fun i _ => evaluated_digit text.toUTF8 i).trans ?_
  rw [← List.ofFn_eq_map, hashBlock, digits, Fnv.digits, Vector.toList_ofFn]

theorem evaluated_identityNibbles (text : String) :
    Evaluated.identityNibbles text =
      .ok ((List.range Identity.textChunks).flatMap fun c => (chunkBlock text c).toList) := by
  have places : List.range Identity.textNibbles =
      (List.range Identity.textChunks).flatMap fun c => List.ofFn fun i : Fin 16 => Identity.chunkNibbles * c + i := by
    decide
  rw [Evaluated.identityNibbles, mapM_eq_ok fun n mem => evaluated_nibbleAt _ (List.mem_range.1 mem), places,
    List.map_flatMap]
  simp only [List.map_ofFn, chunkBlock, chunk, Vector.toList_ofFn]
  rfl

end Spelled

namespace Source.Expansion

section

variable {operand : Spelling} {text : String} {path : TextOperand}

theorem denotesBlock_ofFn {spelling : Fin 16 → Spelling} {digit : Fin 16 → Nibble}
    (h : ∀ i, DenotesNibble operand text (spelling i) (.ok (digit i))) :
    DenotesBlock operand text (List.ofFn spelling) (Vector.ofFn digit) := by
  rw [DenotesBlock, Vector.toList_ofFn, List.ofFn_eq_map, List.ofFn_eq_map, List.forall₂_map_left_iff,
    List.forall₂_map_right_iff, List.forall₂_same]
  exact fun i _ => h i

theorem denotesBlock_written (block : Vector Nibble 16) :
    DenotesBlock operand text (block.toList.map written) block := by
  rw [DenotesBlock, List.forall₂_map_left_iff, List.forall₂_same]
  exact fun n _ => .number n

theorem denotesBlock_hashNibbles (h : DenotesText operand text path) :
    DenotesBlock operand text (hashNibbles path) (Spelled.hashBlock text) := by
  cases h with
  | literal => exact denotesBlock_written _
  | deferred =>
    rw [hashNibbles, map_range_eq_ofFn]
    refine denotesBlock_ofFn fun i => ?_
    have word : i.val.toUInt8.toNat = i := UInt8.toNat_ofNat_of_lt' (Nat.lt_trans i.isLt (by decide))
    have call : DenotesNibble operand text _ _ := .hashCall i.val.toUInt8
    rwa [word, Spelled.evaluated_digit] at call

theorem denotesBlock_chunkNibbles (h : DenotesText operand text path) {c : Nat} (kept : c < Identity.textChunks) :
    DenotesBlock operand text (chunkNibbles path c) (Spelled.chunkBlock text c) := by
  cases h with
  | literal => exact denotesBlock_written _
  | deferred =>
    rw [chunkNibbles, Nat.mul_comm, Identity.chunkNibbles, map_range_eq_ofFn]
    refine denotesBlock_ofFn fun i => ?_
    have place := Spelled.place_lt kept i
    have word : (Identity.chunkNibbles * c + i).toUInt64.toNat = Identity.chunkNibbles * c + i :=
      UInt64.toNat_ofNat_of_lt' (Nat.lt_trans place (by decide))
    have call : DenotesNibble operand text _ _ := .identityCall (Identity.chunkNibbles * c + i).toUInt64
    rwa [word, Spelled.evaluated_nibbleAt _ place] at call

theorem denotesStream_routing_iff (h : DenotesText operand text path) {s : NibbleStream} :
    DenotesStream operand text (routing path) s ↔ s = Spelled.routing text := by
  have denoted : DenotesStream operand text (routing path) (Spelled.routing text) :=
    .repeated (denotesBlock_hashNibbles h)
  constructor
  · intro other
    exact other.unique denoted
  · rintro rfl
    exact denoted

/-- By induction on the chunks, from the innermost one out as they are written. -/
theorem denotesIdentity_foldr (h : DenotesText operand text path) {chunks : List Nat}
    (kept : ∀ c ∈ chunks, c < Identity.textChunks) :
    DenotesIdentity operand text
      (chunks.foldr (fun c rest => identityChunk (chunkNibbles path c) rest) identityEnd)
      (chunks.map fun c => .cyclic (Spelled.chunkBlock text c)) := by
  induction chunks with
  | nil => exact .done
  | cons c chunks ih =>
    obtain ⟨here, tail⟩ := List.forall_mem_cons.1 kept
    exact .chunk (denotesBlock_chunkNibbles h here) (ih tail)

theorem denotesIdentity_identity_iff (h : DenotesText operand text path) {i : Identity} :
    DenotesIdentity operand text (identity path) i ↔ i = Spelled.identity text := by
  have denoted : DenotesIdentity operand text (identity path) (Spelled.identity text) :=
    denotesIdentity_foldr h fun _ mem => List.mem_range.1 mem
  constructor
  · intro other
    exact other.unique denoted
  · rintro rfl
    exact denoted

end

/-- What is written for a literal and for any other operand with the same text denotes one stream and one identity and
nothing else; they are made of the nibbles that evaluation gives for the text. Hashes, sampled bytes and their nibbles are
equal for all bytes and all positions in both ways to compute them, overflows included. -/
theorem encoders_agree (operand : Spelling) (text : String) :
    (∀ path, DenotesText operand text path →
        (∀ s, DenotesStream operand text (routing path) s ↔ s = Spelled.routing text) ∧
          ∀ i, DenotesIdentity operand text (identity path) i ↔ i = Spelled.identity text) ∧
      (Evaluated.hashNibbles text = .ok (Spelled.hashBlock text).toList ∧
        Evaluated.identityNibbles text =
          .ok ((List.range Identity.textChunks).flatMap fun c => (Spelled.chunkBlock text c).toList)) ∧
      ∀ bytes : ByteArray, Fnv.run bytes = Fnv.fold bytes.data.toList ∧
        ∀ i : UInt64, Sample.Spelled.byteAt bytes i = Sample.Evaluated.byteAt bytes i ∧
          Sample.Spelled.nibbleAt bytes i = Sample.Evaluated.nibbleAt bytes i := by
  refine ⟨fun path h => ⟨?_, ?_⟩, ⟨?_, ?_⟩, fun bytes => ⟨Fnv.run_eq_fold bytes, fun i => ⟨?_, ?_⟩⟩⟩
  · intro s
    exact denotesStream_routing_iff h
  · intro i
    exact denotesIdentity_identity_iff h
  · exact Spelled.evaluated_hashNibbles text
  · exact Spelled.evaluated_identityNibbles text
  · exact Sample.Spelled.byteAt_eq_evaluated bytes i
  · exact Sample.Spelled.nibbleAt_eq_evaluated bytes i

example :
    let bytes := ByteArray.mk (Array.replicate 65 0)
    Sample.Spelled.byteAt bytes 0xffffffffffffffff = .error .add ∧
      Sample.Evaluated.byteAt bytes 0xffffffffffffffff = .error .add := by
  decide

end Source.Expansion

end Concord
