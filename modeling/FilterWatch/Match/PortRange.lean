import FilterWatch.Ports
import FilterWatch.Record

/-!
Blocks of the two protocols that test for one range of ports at each end. They differ in the place
of the inversion flags only.
-/

namespace FilterWatch.Match.PortRange

/-- A protocol's block: its name and the place of its inversion flags. -/
structure Form where
  name : String
  flagsAt : Nat
  deriving DecidableEq, Repr

def tcp : Form := ⟨"tcp", 11⟩

def udp : Form := ⟨"udp", 8⟩

def sourceInvertedFlag : UInt8 := 0x01

def destinationInvertedFlag : UInt8 := 0x02

/-- What a block asks of one side, if it asks for less than all ports. -/
def test (form : Form) (block : MatchBlock) (side : Side) :
    Except LayoutError (Option PortTest) := do
  if block.data.length ≤ form.flagsAt then
    throw (.matchTooShort form.name block.data.length (form.flagsAt + 1))
  let (place, inverted) := match side with
    | .source => (0, sourceInvertedFlag)
    | .destination => (4, destinationInvertedFlag)
  let low ← block.data.word16At place
  let high ← block.data.word16At (place + 2)
  let flags ← block.data.byteAt form.flagsAt
  return PortTest.ofRange? low high (flags &&& inverted != 0)

end FilterWatch.Match.PortRange
