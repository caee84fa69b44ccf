import FilterWatch.Match.AddressRange
import FilterWatch.Match.PortList
import FilterWatch.Match.PortRange

/-!
Laying out match blocks. What a block's form cannot hold is refused; a size that a word of 16 bits
cannot hold wraps.
-/

namespace FilterWatch

/-- Why a draft has no layout. -/
inductive DraftError
  | blockNameTooLong (name : String)
  | chainNameTooLong (name : String)
  | targetNameTooLong (name : String)
  | unknownChain (name : String)
  | tooManyPorts (count : Nat)
  | markOutOfRange (index : Nat)
  deriving DecidableEq, Repr

namespace Draft

/-- Blocks take a multiple of eight bytes. -/
def align (size : Nat) : Nat := (size + 7) / 8 * 8

/-- A match block: its size, its name, its revision, and its data with zeros up to the next
multiple of eight. -/
def block (name : String) (revision : UInt8) (data : Bytes) : Except DraftError Bytes :=
  let field := Bytes.ofText name
  let room := align data.length
  if field.length < Record.extensionNameWidth then
    .ok (Bytes.ofNat 2 (Record.blockHeaderSize + room) ++
      field.padTo Record.extensionNameWidth ++ [revision] ++ data.padTo room)
  else .error (.blockNameTooLong name)

/-- A range of ports, as its two ends. -/
abbrev PortPair := UInt16 × UInt16

def portPairData (source destination : PortPair) : Bytes :=
  Bytes.ofWord16 source.1 ++ Bytes.ofWord16 source.2 ++
    Bytes.ofWord16 destination.1 ++ Bytes.ofWord16 destination.2

def tcpBlock (source destination : PortPair) (flags : UInt8) : Except DraftError Bytes :=
  block Match.PortRange.tcp.name 0 (portPairData source destination ++ Bytes.zeros 3 ++ [flags])

def udpBlock (source destination : PortPair) (flags : UInt8) : Except DraftError Bytes :=
  block Match.PortRange.udp.name 0 (portPairData source destination ++ [flags] ++ Bytes.zeros 1)

/-- The beginning of a list's data: the side, the count as one byte, and the ports. -/
def portListData (selector : UInt8) (ports : List UInt16) (size : Nat) :
    Except DraftError Bytes :=
  let data : Bytes := [selector, UInt8.ofNat ports.length] ++ ports.flatMap Bytes.ofWord16
  if data.length ≤ size then .ok (data.padTo size) else .error (.tooManyPorts ports.length)

def portListBlock (selector : UInt8) (ports : List UInt16) : Except DraftError Bytes := do
  block Match.PortList.name 0 (← portListData selector ports Match.PortList.plainSize)

def mark (data : Bytes) (index : Nat) : Except DraftError Bytes :=
  match data.write? (32 + index) [1] with
  | some data => .ok data
  | none => .error (.markOutOfRange index)

/-- The last byte tells the inversion, over a mark that was set there. -/
def markedPortListBlock (selector : UInt8) (ports : List UInt16) (marks : List Nat)
    (inverted : Bool) : Except DraftError Bytes := do
  let data ← portListData selector ports Match.PortList.markedSize
  let data ← marks.foldlM mark data
  block Match.PortList.name 1 (data.dropLast ++ [if inverted then 1 else 0])

/-- A range of addresses, as its two ends. -/
abbrev AddressPair := Address × Address

/-- A block on ranges of addresses in the form of a revision that has slots of `slot` bytes. -/
def addressRangeBlock (revision : UInt8) (slot : Nat) (flags : UInt8)
    (source destination : AddressPair) : Except DraftError Bytes :=
  let ends := [source.1, source.2, destination.1, destination.2]
  block Match.AddressRange.name revision
    (ends.flatMap (fun address => address.octets.padTo slot) ++ [flags])

end Draft

end FilterWatch
