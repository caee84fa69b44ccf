import FilterWatch.Bytes.Read

/-!
A record of a table: a header of 112 bytes, then match blocks up to the target offset, then, unless
the record ends there, a target block. `Record.parse` reads the two offsets and nothing else;
`Record.matchWalk` walks over the match blocks and stops at the first that is malformed.
-/

namespace FilterWatch

/-- A condition of a rule, kept by an extension in data of its own. -/
structure MatchBlock where
  name : String
  revision : UInt8
  data : Bytes
  deriving DecidableEq, Repr

/-- What a rule does with the packets that it selects. -/
structure Target where
  name : String
  revision : UInt8
  data : Bytes
  deriving DecidableEq, Repr

/-- The match blocks of a record as far as they are well formed, and what ended the walk early. -/
structure MatchWalk where
  blocks : List MatchBlock
  fault : Option LayoutError
  deriving DecidableEq, Repr

namespace Record

def headerSize : Nat := 112

/-- Both kinds of block begin with their size, a name and a revision. -/
def blockHeaderSize : Nat := 32

/-- The width of an extension's name, its final zero included. -/
def extensionNameWidth : Nat := 29

/-- The width of a chain's name in its head, its final zero included. -/
def chainNameWidth : Nat := 30

/-- The target that decides by itself has an empty name. -/
def standardTarget : String := ""

/-- The target of the record that opens a user chain or closes the table. -/
def errorTarget : String := "ERROR"

end Record

def MatchBlock.size (block : MatchBlock) : Nat := Record.blockHeaderSize + block.data.length

namespace Target

def isStandard (target : Target) : Bool := target.name = Record.standardTarget

/-- The code of the verdict; only a standard target has one to speak of. -/
def verdict (target : Target) : Except LayoutError Int32 := target.data.int32At 0

/-- The name in an error target, and none in any other. -/
def errorName (target : Target) : Except LayoutError (Option String) :=
  if target.name = Record.errorTarget then
    (target.data.nameAt 0 Record.chainNameWidth).map some
  else .ok none

end Target

/-- A record with its place in the table. The target offset counts from the record's start. -/
structure Record where
  offset : Nat
  bytes : Bytes
  targetOffset : Nat
  header_le : Record.headerSize ≤ targetOffset
  target_le : targetOffset ≤ bytes.length
  deriving DecidableEq, Repr

namespace Record

def size (record : Record) : Nat := record.bytes.length

def next (record : Record) : Nat := record.offset + record.size

theorem size_pos (record : Record) : 0 < record.size :=
  Nat.lt_of_lt_of_le (by decide) (Nat.le_trans record.header_le record.target_le)

/-- The record at an offset of a table. Its own size is judged before its target offset. -/
def parse (table : Bytes) (offset : Nat) : Except LayoutError Record := do
  let header ← table.slice offset headerSize
  let target := (← header.word16At 88).toNat
  let next := (← header.word16At 90).toNat
  if next < headerSize ∨ table.length < offset + next then
    throw (.invalidNextOffset offset next)
  let bytes ← table.slice offset next
  if within : headerSize ≤ target ∧ target ≤ bytes.length then
    return ⟨offset, bytes, target, within.1, within.2⟩
  else throw (.invalidTargetOffset offset target)

/-! ### Fields of the header -/

def address (record : Record) : Side → Except LayoutError Address
  | .source => record.bytes.addressAt 0
  | .destination => record.bytes.addressAt 4

def mask (record : Record) : Side → Except LayoutError Address
  | .source => record.bytes.addressAt 8
  | .destination => record.bytes.addressAt 12

def protocol (record : Record) : Except LayoutError UInt16 := record.bytes.word16At 80

def gotoFlag : UInt8 := 0x02

def sourceInvertedFlag : UInt8 := 0x08

def destinationInvertedFlag : UInt8 := 0x10

def protocolInvertedFlag : UInt8 := 0x40

def isGoto (record : Record) : Except LayoutError Bool :=
  (record.bytes.byteAt 82).map fun flags => flags &&& gotoFlag != 0

def addressInverted (record : Record) (side : Side) : Except LayoutError Bool :=
  let flag := match side with
    | .source => sourceInvertedFlag
    | .destination => destinationInvertedFlag
  (record.bytes.byteAt 83).map fun flags => flags &&& flag != 0

def protocolInverted (record : Record) : Except LayoutError Bool :=
  (record.bytes.byteAt 83).map fun flags => flags &&& protocolInvertedFlag != 0

/-! ### Blocks -/

/-- The match block at a position, counted from the record's start. -/
def matchAt (record : Record) (position : Nat) : Except LayoutError MatchBlock := do
  let size := (← record.bytes.word16At position).toNat
  if size < blockHeaderSize ∨ record.targetOffset < position + size then
    throw (.invalidMatchSize (record.offset + position) size)
  let block ← record.bytes.slice position size
  let name ← block.nameAt 2 extensionNameWidth
  let revision ← block.byteAt 31
  let data ← block.slice blockHeaderSize (size - blockHeaderSize)
  return { name, revision, data }

/-- The match blocks from a position on. Every block is at least a header long, so the walk ends. -/
def matchesFrom (record : Record) (position : Nat) : MatchWalk :=
  if position < record.targetOffset then
    match record.matchAt position with
    | .error fault => ⟨[], some fault⟩
    | .ok block =>
      let rest := record.matchesFrom (position + block.size)
      ⟨block :: rest.blocks, rest.fault⟩
  else ⟨[], none⟩
termination_by record.targetOffset - position
decreasing_by
  have positive : 0 < block.size := Nat.lt_of_lt_of_le (by decide) (Nat.le_add_right _ _)
  omega

def matchWalk (record : Record) : MatchWalk := record.matchesFrom headerSize

/-- The target block, which a record may lack. -/
def target (record : Record) : Except LayoutError (Option Target) := do
  if record.targetOffset = record.size then return none
  let size := (← record.bytes.word16At record.targetOffset).toNat
  if size < blockHeaderSize ∨ record.size < record.targetOffset + size then
    throw (.invalidTargetSize (record.offset + record.targetOffset) size)
  let block ← record.bytes.slice record.targetOffset size
  let name ← block.nameAt 2 extensionNameWidth
  let revision ← block.byteAt 31
  let data ← block.slice blockHeaderSize (size - blockHeaderSize)
  return some { name, revision, data }

def errorName (record : Record) : Except LayoutError (Option String) := do
  match ← record.target with
  | some target => target.errorName
  | none => return none

end Record

end FilterWatch
