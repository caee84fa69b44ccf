import FilterWatch.Record

/-!
Blocks that test for a range of addresses at either end. Two revisions differ in the width of an
address's slot; the four slots (source low and high, destination low and high) precede the flags.
-/

namespace FilterWatch.Match.AddressRange

def name : String := "iprange"

/-- The width of a slot in each revision. -/
def slotWidth (revision : UInt8) : Except LayoutError Nat :=
  if revision = 0 then .ok 4
  else if revision = 1 then .ok 16
  else .error (.unsupportedRevision name revision)

def sourceFlag : UInt8 := 0x01

def destinationFlag : UInt8 := 0x02

def sourceInvertedFlag : UInt8 := 0x10

def destinationInvertedFlag : UInt8 := 0x20

/-- What a block asks of one side, if its flags enable that side. -/
def test (block : MatchBlock) (side : Side) : Except LayoutError (Option AddressTest) := do
  let slot ← slotWidth block.revision
  let flagsAt := 4 * slot
  if block.data.length ≤ flagsAt then
    throw (.matchTooShort name block.data.length (flagsAt + 1))
  let flags ← block.data.byteAt flagsAt
  let (enabled, inverted, first) := match side with
    | .source => (sourceFlag, sourceInvertedFlag, 0)
    | .destination => (destinationFlag, destinationInvertedFlag, 2)
  if flags &&& enabled = 0 then return none
  let low ← block.data.addressAt (first * slot)
  let high ← block.data.addressAt ((first + 1) * slot)
  return some (.range low high (flags &&& inverted != 0))

end FilterWatch.Match.AddressRange
