/-!
The tests that a rule puts to the port at a packet's end, and their texts.
-/

namespace FilterWatch

/-- One item of a list of ports. -/
inductive PortItem
  | single (port : UInt16)
  | span (low high : UInt16)
  deriving DecidableEq, Repr

def PortItem.text : PortItem → String
  | single port => toString port.toNat
  | span low high => s!"{low.toNat}-{high.toNat}"

/-- What a rule asks of the port at one end of a packet. -/
inductive PortTest
  | range (low high : UInt16) (inverted : Bool)
  | list (items : List PortItem) (inverted : Bool)
  deriving DecidableEq, Repr

namespace PortTest

/-- The range of ports from `low` to `high`; the range of all ports tests nothing, inverted or
not. -/
def ofRange? (low high : UInt16) (inverted : Bool) : Option PortTest :=
  if low = 0 ∧ high = 65535 then none else some (.range low high inverted)

/-- The text of a test. A range of one port ends with a blank, and shows no inversion. -/
def text : PortTest → String
  | range low high inverted =>
    if low = high then s!"{low.toNat} "
    else if inverted then s!"!({low.toNat}-{high.toNat})"
    else s!"{low.toNat}-{high.toNat}"
  | list items inverted =>
    let joined := ",".intercalate (items.map PortItem.text)
    if inverted then s!"!({joined})" else joined

end PortTest

end FilterWatch
