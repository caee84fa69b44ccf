import FilterWatch.Ports
import FilterWatch.Record
import FilterWatch.Trace

/-!
Blocks that list up to fifteen ports. The size of the data tells the two forms apart: the plain one
is a list of single ports, the marked one can join a port with the next to a range and can be
inverted as a whole.
-/

namespace FilterWatch.Match

/-- The ends of a packet that a list of ports speaks of. -/
inductive PortSide
  | source
  | destination
  | either
  deriving DecidableEq, Repr

namespace PortSide

def ofCode? (code : UInt8) : Option PortSide :=
  if code = 0 then some source
  else if code = 1 then some destination
  else if code = 2 then some either
  else none

def code : PortSide → UInt8
  | source => 0
  | destination => 1
  | either => 2

def covers : PortSide → Side → Bool
  | either, _ => true
  | source, .source => true
  | destination, .destination => true
  | _, _ => false

end PortSide

inductive PortList
  | plain (side : PortSide) (ports : List UInt16)
  /-- A port with its mark set opens a range that the next port closes. -/
  | marked (side : PortSide) (ports : List (UInt16 × Bool)) (inverted : Bool)
  deriving DecidableEq, Repr

namespace PortList

def name : String := "multiport"

def maxPorts : Nat := 15

def plainSize : Nat := 32

def markedSize : Nat := 48

/-- The list in a block's data; data of neither size holds none. -/
def parse (data : Bytes) : Except LayoutError (Option PortList) := do
  if data.length ≠ plainSize ∧ data.length ≠ markedSize then return none
  let selector ← data.byteAt 0
  let some side := PortSide.ofCode? selector | throw (.invalidPortSide selector)
  let count ← data.byteAt 1
  if maxPorts < count.toNat then throw (.tooManyPorts count)
  let indices := List.range count.toNat
  let ports ← indices.mapM fun index => data.word16At (2 + 2 * index)
  if data.length = plainSize then return some (plain side ports)
  let marks ← indices.mapM fun index => data.byteAt (32 + index)
  let inverted ← data.byteAt 47
  return some (marked side (ports.zip (marks.map (· != 0))) (inverted != 0))

def side : PortList → PortSide
  | plain side _ | marked side _ _ => side

def ports : PortList → List UInt16
  | plain _ ports => ports
  | marked _ ports _ => ports.map Prod.fst

/-- The items that marked ports stand for, the first of them at `index` in its list. The mark of a
port that closes a range is not looked at. -/
def join (index : Nat) : List (UInt16 × Bool) → Except LayoutError (List PortItem)
  | [] => .ok []
  | [(_, true)] => .error (.danglingPortRange index)
  | (low, true) :: (high, _) :: rest => (join (index + 2) rest).map (.span low high :: ·)
  | (port, false) :: rest => (join (index + 1) rest).map (.single port :: ·)

/-- The test that the list stands for. -/
def test : PortList → Except LayoutError PortTest
  | plain _ ports => .ok (.list (ports.map .single) false)
  | marked _ ports inverted => (join 0 ports).map fun items => .list items inverted

/-- What a block asks of one side. A list for the other side, an empty list and data of an unknown
size ask nothing. -/
def testOf (block : MatchBlock) (side : Side) : Attempt LayoutError (Option PortTest) := do
  match ← Attempt.ofExcept (parse block.data) with
  | none =>
    Traced.log .debug s!"multiport block of {block.data.length} bytes matches no known layout"
    return none
  | some list =>
    if !list.side.covers side || list.ports.isEmpty then return none
    else some <$> Attempt.ofExcept list.test

end PortList

end FilterWatch.Match
