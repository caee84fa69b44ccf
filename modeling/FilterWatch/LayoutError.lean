import FilterWatch.Bytes

/-! The ways in which the bytes of a table, or a walk over it, can be wrong, and their wording. -/

namespace FilterWatch

inductive LayoutError
  | outOfBounds (offset length size : Nat)
  | invalidTargetOffset (offset target : Nat)
  | invalidNextOffset (offset next : Nat)
  | invalidMatchSize (offset size : Nat)
  | invalidTargetSize (offset size : Nat)
  | missingTarget (offset : Nat)
  | invalidName (bytes : Bytes)
  | matchTooShort (name : String) (length expected : Nat)
  | unsupportedRevision (name : String) (revision : UInt8)
  | unsupportedProtocol (number : UInt16)
  | invalidVerdict (code : Int32)
  | invalidJump (destination : Int32)
  | invalidPortSide (selector : UInt8)
  | tooManyPorts (count : UInt8)
  | danglingPortRange (index : Nat)
  | invalidHook (hook entry underflow : Nat)
  | entryCountMismatch (expected found : Nat)
  | noTrailingErrorTarget
  | ruleBeforeFirstChain (offset : Nat)
  | chainWithoutReturn (chain : String)
  | notPositioned
  deriving DecidableEq, Repr

namespace LayoutError

/-- Bytes as a list of decimal numbers. -/
def listing (bytes : Bytes) : String :=
  "[" ++ ", ".intercalate (bytes.map fun byte => toString byte.toNat) ++ "]"

def message : LayoutError → String
  | outOfBounds offset length size =>
    s!"reading {length} bytes at offset {offset} overruns a {size} bytes region"
  | invalidTargetOffset offset target =>
    s!"entry at offset {offset} has invalid target offset {target}"
  | invalidNextOffset offset next => s!"entry at offset {offset} has invalid next offset {next}"
  | invalidMatchSize offset size =>
    s!"match block at offset {offset} declares invalid size {size}"
  | invalidTargetSize offset size =>
    s!"target block at offset {offset} declares invalid size {size}"
  | missingTarget offset => s!"entry at offset {offset} has no target"
  | invalidName bytes => s!"name field {listing bytes} is not a valid name"
  | matchTooShort name length expected =>
    s!"{name} match data is {length} bytes, at least {expected} expected"
  | unsupportedRevision name revision =>
    s!"unsupported {name} match revision {revision.toNat}"
  | unsupportedProtocol number => s!"unsupported protocol {number.toNat}"
  | invalidVerdict code => s!"invalid standard verdict {code.toInt}"
  | invalidJump destination => s!"jump to offset {destination.toInt} does not start a chain"
  | invalidPortSide selector => s!"invalid multiport side selector {selector.toNat}"
  | tooManyPorts count => s!"multiport count {count.toNat} exceeds the port list"
  | danglingPortRange index => s!"multiport range flag on port {index} has no upper bound"
  | invalidHook hook entry underflow =>
    s!"hook {hook} has invalid entry {entry} or underflow {underflow}"
  | entryCountMismatch expected found => s!"table announces {expected} entries but holds {found}"
  | noTrailingErrorTarget => "table does not end with an ERROR entry"
  | ruleBeforeFirstChain offset => s!"rule at offset {offset} does not belong to any chain"
  | chainWithoutReturn chain => s!"chain {chain} does not end with a RETURN entry"
  | notPositioned => "iterator is not positioned on an element"

end LayoutError

end FilterWatch
