import FilterWatch.Address
import FilterWatch.LayoutError

/-!
Reading from a region of bytes. Every read names the bytes that it needs and fails when the region
does not hold all of them.
-/

namespace FilterWatch.Bytes

def slice (region : Bytes) (offset length : Nat) : Except LayoutError Bytes :=
  match region.slice? offset length with
  | some bytes => .ok bytes
  | none => .error (.outOfBounds offset length region.length)

def byteAt (region : Bytes) (offset : Nat) : Except LayoutError UInt8 :=
  (slice region offset 1).map fun bytes => UInt8.ofNat bytes.value

def word16At (region : Bytes) (offset : Nat) : Except LayoutError UInt16 :=
  (slice region offset 2).map fun bytes => UInt16.ofNat bytes.value

def word32At (region : Bytes) (offset : Nat) : Except LayoutError UInt32 :=
  (slice region offset 4).map fun bytes => UInt32.ofNat bytes.value

def int32At (region : Bytes) (offset : Nat) : Except LayoutError Int32 :=
  (word32At region offset).map UInt32.toInt32

/-- An address stands in the order in which it travels, not as a little-endian word. -/
def addressAt (region : Bytes) (offset : Nat) : Except LayoutError Address :=
  (slice region offset 4).map fun bytes =>
    ⟨bytes.getD 0 0, bytes.getD 1 0, bytes.getD 2 0, bytes.getD 3 0⟩

/-- The name in a field of `width` bytes: what precedes the first zero, which has to be there, as
UTF-8. -/
def nameAt (region : Bytes) (offset width : Nat) : Except LayoutError String := do
  let field ← slice region offset width
  if field.contains 0 then
    match toText? (field.takeWhile (· ≠ 0)) with
    | some name => return name
    | none => throw (.invalidName field)
  else throw (.invalidName field)

end FilterWatch.Bytes
