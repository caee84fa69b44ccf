import FilterWatch.Event
import FilterWatch.Json.Reader

/-!
Reading an event from JSON. Members that no one asks for are passed over, except in the timestamp;
an object can also be given as the list of its members' values. The rule can precede the kind of the
event; it is then read as a value of any shape, and judged when the kind is known.
-/

namespace FilterWatch

open Json (Reader Fault Value)
open Json.Reader (once required unknown item string natural nullable named structured)

namespace FirewallRule

structure Members where
  chain : Option String
  priority : Option Nat
  direction : Option (Option Direction)
  action : Option (Option RuleAction)
  target : Option (Option String)
  sourceAddress : Option (Option String)
  destinationAddress : Option (Option String)
  sourcePort : Option (Option String)
  destinationPort : Option (Option String)
  protocol : Option (Option String)

namespace Members

def none : Members := ⟨.none, .none, .none, .none, .none, .none, .none, .none, .none, .none⟩

/-- The rule, unless the chain or the priority is missing. -/
def rule? (members : Members) : Option FirewallRule := do
  return {
    chain := ← members.chain
    priority := ← members.priority
    direction := members.direction.join
    action := members.action.join
    target := members.target.join
    sourceAddress := members.sourceAddress.join
    destinationAddress := members.destinationAddress.join
    sourcePort := members.sourcePort.join
    destinationPort := members.destinationPort.join
    protocol := members.protocol.join }

end Members

/-- Priorities have 64 bits. -/
def priorityLimit : Nat := Nat.pow 2 64

def readMember (m : Members) (name : String) : Reader Members := do
  if name = "chain" then return { m with chain := ← once m.chain string }
  if name = "priority" then
    return { m with priority := ← once m.priority (natural priorityLimit) }
  if name = "direction" then
    return { m with direction := ← once m.direction (nullable (named Direction.ofName?)) }
  if name = "action" then
    return { m with action := ← once m.action (nullable (named RuleAction.ofName?)) }
  if name = "target" then return { m with target := ← once m.target (nullable string) }
  if name = "source_address" then
    return { m with sourceAddress := ← once m.sourceAddress (nullable string) }
  if name = "destination_address" then
    return { m with destinationAddress := ← once m.destinationAddress (nullable string) }
  if name = "source_port" then
    return { m with sourcePort := ← once m.sourcePort (nullable string) }
  if name = "destination_port" then
    return { m with destinationPort := ← once m.destinationPort (nullable string) }
  if name = "protocol" then return { m with protocol := ← once m.protocol (nullable string) }
  unknown m

def fromItems : Reader FirewallRule := do
  let chain ← item true string
  let priority ← item false (natural priorityLimit)
  let direction ← item false (nullable (named Direction.ofName?))
  let action ← item false (nullable (named RuleAction.ofName?))
  let target ← item false (nullable string)
  let sourceAddress ← item false (nullable string)
  let destinationAddress ← item false (nullable string)
  let sourcePort ← item false (nullable string)
  let destinationPort ← item false (nullable string)
  let protocol ← item false (nullable string)
  return { chain, priority, direction, action, target, sourceAddress, destinationAddress,
           sourcePort, destinationPort, protocol }

def reader : Reader FirewallRule :=
  structured (do required (← Json.Reader.object true Members.none readMember).rule?) fromItems

/-! ### From a value of any shape -/

def textOf? : Value → Option String
  | .text text => some text
  | _ => none

def naturalOf? (limit : Nat) : Value → Option Nat
  | .number (.natural n) => if n < limit then some n else none
  | _ => none

def optionalOf? (of? : Value → Option α) : Value → Option (Option α)
  | .null => some none
  | value => (of? value).map some

/-- One of several names, alone or as the only member, of no content, of an object. -/
def namedOf? (ofName? : String → Option α) : Value → Option α
  | .text name => ofName? name
  | .object [(name, .null)] | .object [(name, .object [])] => ofName? name
  | _ => none

/-- The member of a name that is not there twice. -/
def memberOf? (members : List (String × Value)) (name : String) (of? : Value → Option α) :
    Option (Option α) :=
  match members.filter (·.1 = name) with
  | [] => some none
  | [(_, value)] => (of? value).map some
  | _ => none

def ofMembers? (members : List (String × Value)) : Option FirewallRule := do
  let optionalText (name : String) := memberOf? members name (optionalOf? textOf?)
  let found : Members := {
    chain := ← memberOf? members "chain" textOf?
    priority := ← memberOf? members "priority" (naturalOf? priorityLimit)
    direction := ← memberOf? members "direction" (optionalOf? (namedOf? Direction.ofName?))
    action := ← memberOf? members "action" (optionalOf? (namedOf? RuleAction.ofName?))
    target := ← optionalText "target"
    sourceAddress := ← optionalText "source_address"
    destinationAddress := ← optionalText "destination_address"
    sourcePort := ← optionalText "source_port"
    destinationPort := ← optionalText "destination_port"
    protocol := ← optionalText "protocol" }
  found.rule?

/-- The names of a rule's members, in the order in which a list gives their values. -/
def memberNames : List String := ["chain", "priority", "direction", "action", "target",
  "source_address", "destination_address", "source_port", "destination_port", "protocol"]

def ofValue? : Value → Option FirewallRule
  | .object members => ofMembers? members
  | .list values =>
    if values.length = memberNames.length then ofMembers? (memberNames.zip values) else none
  | _ => none

end FirewallRule

namespace Time

/-- Seconds are read with 64 bits, and the nanoseconds carried over to them must not exceed that. -/
def secondsLimit : Nat := Nat.pow 2 64

def nanosLimit : Nat := Nat.pow 2 32

def ofReading (seconds nanos : Nat) : Reader Time := do
  let time := ofParts seconds nanos
  if time.seconds < secondsLimit then return time else throw .misshapen

/-- Refuses a time of which the seconds exceed 63 bits. -/
def representable (time : Time) : Reader Time :=
  if time.seconds < Int.pow 2 63 then return time else throw .misshapen

def readMember : Option Nat × Option Nat → String → Reader (Option Nat × Option Nat)
  | (seconds, nanos), name => do
    if name = "secs_since_epoch" then return (← once seconds (natural secondsLimit), nanos)
    if name = "nanos_since_epoch" then return (seconds, ← once nanos (natural nanosLimit))
    throw .misshapen

def reader : Reader Time := do
  let time ← structured
    (do
      let (seconds, nanos) ← Json.Reader.object true (none, none) readMember
      ofReading (← required seconds) (← required nanos))
    (do
      let seconds ← item true (natural secondsLimit)
      let nanos ← item false (natural nanosLimit)
      ofReading seconds nanos)
  representable time

end Time

namespace Uuid

def reader : Reader Uuid := do required (parse? (← string))

end Uuid

namespace EventHeader

structure Members where
  source : Option String
  hostname : Option String
  snapshot : Option Uuid
  timestamp : Option Time

def readMember (m : Members) (name : String) : Reader Members := do
  if name = "source" then return { m with source := ← once m.source string }
  if name = "hostname" then return { m with hostname := ← once m.hostname string }
  if name = "snapshot" then return { m with snapshot := ← once m.snapshot Uuid.reader }
  if name = "timestamp" then return { m with timestamp := ← once m.timestamp Time.reader }
  unknown m

def reader : Reader EventHeader :=
  structured
    (do
      let m ← Json.Reader.object true ⟨none, none, none, none⟩ readMember
      return { source := ← required m.source, hostname := ← required m.hostname
               snapshot := ← required m.snapshot, timestamp := ← required m.timestamp })
    (do
      let source ← item true string
      let hostname ← item false string
      let snapshot ← item false Uuid.reader
      let timestamp ← item false Time.reader
      return { source, hostname, snapshot, timestamp })

end EventHeader

namespace Event

/-- Of a kind and a content, what has been read. -/
inductive Payload
  | nothing
  | kind
  | content (value : Value)
  | rule (rule : FirewallRule)

def isKind? (name : String) : Option Unit := if name = kindName then some () else none

/-- The kind as the first item of a list, where it has to be a string. -/
def kindItem : Reader Unit := do required (isKind? (← string))

/-- How deep the content may nest before the kind is known. -/
def contentDepth : Nat := 126

def readPayloadMember (payload : Payload) (name : String) : Reader Payload := do
  if name = "type" then
    match payload with
    | .nothing =>
      Json.Reader.colon
      named isKind?
      return .kind
    | .content value =>
      Json.Reader.colon
      named isKind?
      .rule <$> required (FirewallRule.ofValue? value)
    | .kind | .rule _ => throw .misshapen
  else if name = "content" then
    match payload with
    | .nothing =>
      Json.Reader.colon
      .content <$> Json.Reader.value contentDepth
    | .kind =>
      Json.Reader.colon
      .rule <$> FirewallRule.reader
    | .content _ | .rule _ => throw .misshapen
  else unknown payload

def payloadReader : Reader FirewallRule :=
  structured
    (do
      match ← Json.Reader.object true .nothing readPayloadMember with
      | .rule rule => return rule
      | _ => throw .misshapen)
    (do
      item true kindItem
      item false FirewallRule.reader)

def readMember : Option EventHeader × Option FirewallRule → String →
    Reader (Option EventHeader × Option FirewallRule)
  | (header, rule), name => do
    if name = "header" then return (← once header EventHeader.reader, rule)
    if name = "payload" then return (header, ← once rule payloadReader)
    unknown (header, rule)

def reader : Reader Event :=
  structured
    (do
      let (header, rule) ← Json.Reader.object true (none, none) readMember
      return { header := ← required header, rule := ← required rule })
    (do
      let header ← item true EventHeader.reader
      let rule ← item false payloadReader
      return { header, rule })

def ofJson (text : String) : Except Fault Event := reader.run text

end Event

end FilterWatch
