import FilterWatch.Match.AddressRange
import FilterWatch.Match.PortList
import FilterWatch.Match.PortRange
import FilterWatch.Protocol
import FilterWatch.Table

/-!
A rule at its place in a chain, and what it tests and decides as texts.
-/

namespace FilterWatch

/-- A rule: the record at an index of a chain of a table. -/
structure Rule where
  table : Table
  chain : Chain
  index : Nat
  record : Record
  deriving DecidableEq, Repr

structure DecodedRule where
  chain : String
  index : Nat
  sourceAddress : Option String
  destinationAddress : Option String
  sourcePort : Option String
  destinationPort : Option String
  protocol : Option String
  action : Option Action
  deriving DecidableEq, Repr

/-- The rules of a chain, by index. -/
def Table.rulesOf (table : Table) (chain : Chain) : List Rule :=
  chain.rules.zipIdx.map fun (record, index) => { table, chain, index, record }

namespace Rule

/-- The address test of the record's header. -/
def headerTest (rule : Rule) (side : Side) : Except LayoutError AddressTest := do
  return .network (← rule.record.address side) (← rule.record.mask side)
    (← rule.record.addressInverted side)

/-- The first block on ranges of addresses, which is reached only over well-formed blocks. -/
def rangeBlock (walk : MatchWalk) : Except LayoutError (Option MatchBlock) :=
  match walk.blocks.find? (·.name = Match.AddressRange.name), walk.fault with
  | some block, _ => .ok (some block)
  | none, some fault => .error fault
  | none, none => .ok none

/-- The address test of one side: that of the first block on ranges if it speaks of the side, and
else that of the header. -/
def addressTest (rule : Rule) (side : Side) : Except LayoutError AddressTest := do
  match ← rangeBlock rule.record.matchWalk with
  | some block =>
    match ← Match.AddressRange.test block side with
    | some test => return test
    | none => rule.headerTest side
  | none => rule.headerTest side

def address (rule : Rule) (side : Side) : Except LayoutError (Option String) :=
  (rule.addressTest side).map AddressTest.text?

/-- What one block asks of the port of a side; blocks on other matters are passed over. -/
def blockPorts (chain : String) (block : MatchBlock) (side : Side) :
    Attempt LayoutError (Option PortTest) := do
  if block.name = Match.PortRange.tcp.name then
    Attempt.ofExcept (Match.PortRange.test Match.PortRange.tcp block side)
  else if block.name = Match.PortRange.udp.name then
    Attempt.ofExcept (Match.PortRange.test Match.PortRange.udp block side)
  else if block.name = Match.PortList.name then
    Match.PortList.testOf block side
  else
    Traced.log .trace s!"skipping {block.name} match of {chain}"
    return none

/-- The first test that some block puts to the port of a side. Where no block puts any, the fault
that ended the walk is raised. -/
def firstPortTest (chain : String) (side : Side) (fault : Option LayoutError) :
    List MatchBlock → Attempt LayoutError (Option PortTest)
  | [] =>
    match fault with
    | some fault => throw fault
    | none => return none
  | block :: rest => do
    match ← blockPorts chain block side with
    | some test => return some test
    | none => firstPortTest chain side fault rest

def portTest (rule : Rule) (side : Side) : Attempt LayoutError (Option PortTest) :=
  let walk := rule.record.matchWalk
  firstPortTest rule.chain.name side walk.fault walk.blocks

def port (rule : Rule) (side : Side) : Attempt LayoutError (Option String) :=
  (Option.map PortTest.text) <$> rule.portTest side

def protocol (rule : Rule) : Except LayoutError (Option String) := do
  Protocol.text? (← rule.record.protocol) (← rule.record.protocolInverted)

def target (rule : Rule) : Except LayoutError (Option String) :=
  rule.table.verdictName rule.record

def action (rule : Rule) : Except LayoutError (Option Action) := do
  let name ← rule.target
  Action.ofVerdict name (← rule.record.isGoto) rule.record.offset

/-- The whole rule, or the first of its parts that cannot be read. -/
def decode (rule : Rule) : Attempt LayoutError DecodedRule := do
  let sourceAddress ← Attempt.ofExcept (rule.address .source)
  let destinationAddress ← Attempt.ofExcept (rule.address .destination)
  let sourcePort ← rule.port .source
  let destinationPort ← rule.port .destination
  let protocol ← Attempt.ofExcept rule.protocol
  let action ← Attempt.ofExcept rule.action
  return { chain := rule.chain.name, index := rule.index, sourceAddress, destinationAddress,
           sourcePort, destinationPort, protocol, action }

end Rule

end FilterWatch
