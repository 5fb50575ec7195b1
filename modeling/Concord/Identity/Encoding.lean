import Concord.Identity.Basic
import Concord.Identity.Hash
import Concord.Identity.Sample

/-!
# Identities of texts

The routing stream of a text repeats the sixteen nibbles of its hash. Its identity has eight chunks of sixteen nibbles,
which are the 64 sampled bytes. Both depend on nothing but the bytes of the text. `Spelled` writes them out as data;
`Evaluated` asks the checked functions for every nibble, and fails where one of them does.
-/

namespace Concord

namespace Identity

/-- The number of chunks of the identity of a text. -/
def textChunks : Nat := 8

/-- The number of nibbles of the identity of a text: two for each sampled byte. -/
def textNibbles : Nat := textChunks * chunkNibbles

end Identity

namespace Spelled

/-- The nibbles of the hash of some bytes. -/
def digits (bytes : ByteArray) : Vector Nibble 16 := Fnv.digits (Fnv.fold bytes.data.toList)

/-- Nibble `n` of the identity of some bytes. No position below 128 overflows, so the fallback is never taken. -/
def nibble (bytes : ByteArray) (n : Nat) : Nibble :=
  (Sample.Spelled.nibbleAt bytes n.toUInt64).toOption.getD Nibble.zero

/-- The nibbles of one chunk of the identity of some bytes. -/
def chunk (bytes : ByteArray) (c : Nat) : Vector Nibble 16 :=
  Vector.ofFn fun i => nibble bytes (Identity.chunkNibbles * c + i)

/-- The stream that repeats the hash of some bytes. -/
def stream (bytes : ByteArray) : NibbleStream := .cyclic (digits bytes)

/-- The chunks of the identity of some bytes. -/
def chunks (bytes : ByteArray) : Identity := (List.range Identity.textChunks).map fun c => .cyclic (chunk bytes c)

/-- The nibbles of the hash of a text. -/
def hashBlock (text : String) : Vector Nibble 16 := digits text.toUTF8

/-- The nibbles of one chunk of the identity of a text. -/
def chunkBlock (text : String) (c : Nat) : Vector Nibble 16 := chunk text.toUTF8 c

/-- The stream that repeats the hash of a text. -/
def routing (text : String) : NibbleStream := stream text.toUTF8

/-- The identity of a text. -/
def identity (text : String) : Identity := chunks text.toUTF8

theorem length_chunks (bytes : ByteArray) : List.length (chunks bytes) = Identity.textChunks := by
  simp [chunks]

theorem length_identity (text : String) : List.length (identity text) = Identity.textChunks := length_chunks _

end Spelled

namespace Evaluated

/-- The nibbles of the hash of a text. -/
def hashNibbles (text : String) : Except Overflow (List Nibble) :=
  (List.range 16).mapM fun i => Fnv.nibbleAt text.toUTF8 i.toUInt8

/-- The nibbles of the identity of a text. -/
def identityNibbles (text : String) : Except Overflow (List Nibble) :=
  (List.range Identity.textNibbles).mapM fun n => Sample.Evaluated.nibbleAt text.toUTF8 n.toUInt64

/-- The stream that repeats the hash of some bytes. -/
def stream (bytes : ByteArray) : Except Overflow NibbleStream := do
  let block ← Vector.ofFnM fun i : Fin 16 => Fnv.nibbleAt bytes i.val.toUInt8
  return .cyclic block

/-- One chunk of the identity of some bytes. -/
def chunk (bytes : ByteArray) (c : Nat) : Except Overflow NibbleStream := do
  let block ← Vector.ofFnM fun i : Fin 16 =>
    Sample.Evaluated.nibbleAt bytes (Identity.chunkNibbles * c + i).toUInt64
  return .cyclic block

/-- The chunks of the identity of some bytes. -/
def chunks (bytes : ByteArray) : Except Overflow Identity := (List.range Identity.textChunks).mapM (chunk bytes)

end Evaluated

end Concord
