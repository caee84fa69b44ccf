import FilterWatch.Draft.Block

/-!
Laying out the record of a rule. Where a jump leads is known only to the table, so the layout takes
the starts of the chains and the record's own offset.
-/

namespace FilterWatch

inductive TargetDraft
  | verdict (code : Int32)
  | jump (chain : String)
  | goto (chain : String)
  /-- Jumps to the next record. -/
  | fallthrough
  | extension (name : String) (data : Bytes)
  /-- Opens a user chain, or closes the table. -/
  | head (chain : String)
  deriving DecidableEq, Repr

structure RuleDraft where
  source : Address
  sourceMask : Address
  destination : Address
  destinationMask : Address
  protocol : UInt16
  sourceInverted : Bool
  destinationInverted : Bool
  protocolInverted : Bool
  blocks : List Bytes
  target : TargetDraft
  deriving DecidableEq, Repr

namespace RuleDraft

/-- A rule that tests nothing. -/
def unconditional (target : TargetDraft) : RuleDraft where
  source := .unspecified
  sourceMask := .unspecified
  destination := .unspecified
  destinationMask := .unspecified
  protocol := 0
  sourceInverted := false
  destinationInverted := false
  protocolInverted := false
  blocks := []
  target

def targetOffset (rule : RuleDraft) : Nat :=
  Record.headerSize + rule.blocks.flatten.length

def targetSize (rule : RuleDraft) : Nat :=
  match rule.target with
  | .verdict _ | .jump _ | .goto _ | .fallthrough => Draft.align (Record.blockHeaderSize + 4)
  | .extension _ data => Record.blockHeaderSize + Draft.align data.length
  | .head _ => Draft.align (Record.blockHeaderSize + Record.chainNameWidth)

def size (rule : RuleDraft) : Nat := rule.targetOffset + rule.targetSize

def flags (rule : RuleDraft) : UInt8 :=
  match rule.target with
  | .goto _ => Record.gotoFlag
  | _ => 0

def inversionFlags (rule : RuleDraft) : UInt8 :=
  (if rule.sourceInverted then Record.sourceInvertedFlag else 0) |||
    (if rule.destinationInverted then Record.destinationInvertedFlag else 0) |||
    (if rule.protocolInverted then Record.protocolInvertedFlag else 0)

/-- The header, with zeros for interfaces, cache and counters. -/
def header (rule : RuleDraft) : Bytes :=
  rule.source.octets ++ rule.destination.octets ++
    rule.sourceMask.octets ++ rule.destinationMask.octets ++ Bytes.zeros 64 ++
    Bytes.ofWord16 rule.protocol ++ [rule.flags, rule.inversionFlags] ++ Bytes.zeros 4 ++
    Bytes.ofNat 2 rule.targetOffset ++ Bytes.ofNat 2 rule.size ++ Bytes.zeros 20

/-- The name and the data of the target block. -/
def targetContent (rule : RuleDraft) (startOf : String → Except DraftError Nat) (offset : Nat) :
    Except DraftError (String × Bytes) :=
  match rule.target with
  | .verdict code => .ok (Record.standardTarget, Bytes.ofInt32 code)
  | .jump chain | .goto chain =>
    (startOf chain).map fun start => (Record.standardTarget, Bytes.ofNat 4 start)
  | .fallthrough => .ok (Record.standardTarget, Bytes.ofNat 4 (offset + rule.size))
  | .extension name data => .ok (name, data)
  | .head chain =>
    let field := Bytes.ofText chain
    if field.length < Record.chainNameWidth then .ok (Record.errorTarget, field)
    else .error (.chainNameTooLong chain)

/-- The target block. A name that is longer than its field runs on into the data, which is written
last, and has to end within the block. -/
def targetBlock (rule : RuleDraft) (name : String) (data : Bytes) : Except DraftError Bytes :=
  let named := (Bytes.ofNat 2 rule.targetSize).padTo rule.targetSize |>.write? 2 (Bytes.ofText name)
  match named.bind (·.write? Record.blockHeaderSize data) with
  | some block => .ok block
  | none => .error (.targetNameTooLong name)

def encode (rule : RuleDraft) (startOf : String → Except DraftError Nat) (offset : Nat) :
    Except DraftError Bytes := do
  let (name, data) ← rule.targetContent startOf offset
  return rule.header ++ rule.blocks.flatten ++ (← rule.targetBlock name data)

end RuleDraft

end FilterWatch
