import Concord.Identity.Stream
import Concord.Identity.Word

/-!
# Sampling a text

An identity keeps 64 bytes of its text. A text of at most 64 bytes is kept whole and padded with zeros; of a longer
one the first 32 bytes stay, 16 from the middle and the last 16. Two definitions give the byte at a position:
`Spelled` reads it off a list of windows, `Evaluated` by nested comparisons. Both check their index arithmetic.
-/

namespace Concord

namespace Sample

/-- The number of bytes that are kept. -/
def size : Nat := 64

namespace Spelled

/-- Positions from `first` on read the text from `start` on. -/
structure Window where
  first : UInt64
  start : UInt64

/-- The windows on a text of `len` bytes, the last one first. -/
def windows (len : UInt64) : List Window :=
  if len ≤ 64 then [⟨0, 0⟩] else [⟨48, len - 16⟩, ⟨32, (len - 16) / 2⟩, ⟨0, 0⟩]

/-- The place in the text that position `i` shows. -/
def index (len i : UInt64) : Except Overflow UInt64 :=
  match (windows len).find? (·.first ≤ i) with
  | some w => Word.add w.start (i - w.first)
  | none => .ok i

/-- The byte at position `i`, zero outside the text. -/
def byteAt (bytes : ByteArray) (i : UInt64) : Except Overflow UInt8 :=
  (index bytes.size.toUInt64 i).map fun k => bytes.data[k.toNat]?.getD 0

/-- The nibble at position `n`, the upper half of each byte first. -/
def nibbleAt (bytes : ByteArray) (n : UInt64) : Except Overflow Nibble :=
  (byteAt bytes (n / 2)).map fun b => if n % 2 = 0 then Nibble.high b else Nibble.low b

end Spelled

namespace Evaluated

/-- The place in the text that position `i` shows. -/
def index (len i : UInt64) : Except Overflow UInt64 :=
  if len ≤ 64 then .ok i
  else if i < 32 then .ok i
  else if i < 48 then Word.add ((len - 16) / 2) (i - 32)
  else Word.add (len - 16) (i - 48)

/-- The byte at position `i`, zero outside the text. -/
def byteAt (bytes : ByteArray) (i : UInt64) : Except Overflow UInt8 := do
  let k ← index bytes.size.toUInt64 i
  if h : k.toNat < bytes.size then return bytes[k.toNat] else return 0

/-- The nibble at position `n`, the upper half of each byte first. -/
def nibbleAt (bytes : ByteArray) (n : UInt64) : Except Overflow Nibble := do
  let b ← byteAt bytes (n / 2)
  if n % 2 = 0 then return Nibble.ofNat (b >>> 4).toNat else return Nibble.ofNat (b &&& 0xF).toNat

end Evaluated

end Sample

end Concord
