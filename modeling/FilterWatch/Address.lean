import FilterWatch.Bytes

/-!
Addresses of version 4, and the tests that a rule puts to the address of a packet's end. A test has
a text unless it admits every address without saying so (`AddressTest.text?`).
-/

namespace FilterWatch

/-- The end of a packet that a test looks at. -/
inductive Side
  | source
  | destination
  deriving DecidableEq, Repr

/-- An address, as its four bytes in the order in which they travel. -/
structure Address where
  first : UInt8
  second : UInt8
  third : UInt8
  fourth : UInt8
  deriving DecidableEq, Repr

namespace Address

def unspecified : Address := ⟨0, 0, 0, 0⟩

def octets (address : Address) : Bytes :=
  [address.first, address.second, address.third, address.fourth]

/-- The address as a number of 32 bits, its first byte the highest. -/
def toNat (address : Address) : Nat := Bytes.value address.octets.reverse

def text (address : Address) : String :=
  ".".intercalate (address.octets.map fun octet => toString octet.toNat)

/-- The mask of 32 bits that begins with `length` ones and goes on with zeros, as a number. -/
def prefixMask (length : Nat) : Nat := Nat.pow 2 32 - Nat.pow 2 (32 - length)

/-- The number of ones that a mask begins with, if it has no others and at least one. -/
def prefixLength? (mask : Address) : Option Nat :=
  (List.range' 1 32).find? fun length => prefixMask length = mask.toNat

end Address

/-- What a rule asks of the address at one end of a packet. -/
inductive AddressTest
  /-- The address agrees with `address` on the bits of `mask`. -/
  | network (address mask : Address) (inverted : Bool)
  /-- The address lies between the two, both included. -/
  | range (low high : Address) (inverted : Bool)
  deriving DecidableEq, Repr

namespace AddressTest

/-- An address with its mask: no mask at all where it is zero, the length of the prefix where it
is one, and else the mask in dotted form. -/
def networkText (address mask : Address) : String :=
  if mask = .unspecified then address.text
  else
    match mask.prefixLength? with
    | some length => s!"{address.text}/{length}"
    | none => s!"{address.text}/{mask.text}"

def rangeText (low high : Address) (inverted : Bool) : String :=
  if inverted then s!"!({low.text}-{high.text})" else s!"{low.text}-{high.text}"

/-- The text of a test. A network of no address and no mask tests nothing, inverted or not. -/
def text? : AddressTest → Option String
  | network address mask inverted =>
    if address = .unspecified ∧ mask = .unspecified then none
    else some ((if inverted then "!" else "") ++ networkText address mask)
  | range low high inverted => some (rangeText low high inverted)

end AddressTest

end FilterWatch
