/-!
Byte strings, the little-endian numbers in them, and the two ways to write into a buffer: `write?`
refuses what does not fit, `overlay` drops it.
-/

namespace FilterWatch

/-- A run of bytes, in the order in which they stand in memory. -/
abbrev Bytes := List UInt8

namespace Bytes

/-- The number whose digits to base 256 are the bytes, the lowest digit first. -/
def value : Bytes → Nat
  | [] => 0
  | low :: rest => low.toNat + 256 * value rest

/-- The `width` lowest digits of a number to base 256; what they cannot hold is dropped. -/
def ofNat : (width : Nat) → Nat → Bytes
  | 0, _ => []
  | width + 1, n => UInt8.ofNat n :: ofNat width (n / 256)

def ofWord16 (word : UInt16) : Bytes := ofNat 2 word.toNat

def ofWord32 (word : UInt32) : Bytes := ofNat 4 word.toNat

def ofInt32 (word : Int32) : Bytes := ofWord32 word.toUInt32

def zeros (count : Nat) : Bytes := List.replicate count 0

/-- The data, followed by the zeros that bring it to `width`. -/
def padTo (width : Nat) (data : Bytes) : Bytes := data ++ zeros (width - data.length)

/-- The `length` bytes from `offset` on, if the region holds them all. -/
def slice? (region : Bytes) (offset length : Nat) : Option Bytes :=
  if offset + length ≤ region.length then some ((region.drop offset).take length) else none

/-- The region with `data` in place of what stood at `offset`, if it fits there. -/
def write? (region : Bytes) (offset : Nat) (data : Bytes) : Option Bytes :=
  if offset + data.length ≤ region.length then
    some (region.take offset ++ data ++ region.drop (offset + data.length))
  else none

/-- The region with `data` in place of its beginning; what does not fit is dropped. -/
def overlay (region data : Bytes) : Bytes :=
  data.take region.length ++ region.drop data.length

/-- The bytes of a text in UTF-8. -/
def ofText (text : String) : Bytes := text.toByteArray.data.toList

/-- The text whose bytes in UTF-8 these are, if there is one. -/
def toText? (bytes : Bytes) : Option String := String.fromUTF8? ⟨bytes.toArray⟩

end Bytes

end FilterWatch
