import FilterWatch.LayoutError

/-! The transport protocols that a rule can name. -/

namespace FilterWatch.Protocol

/-- Zero stands for every protocol and has no text. -/
def text? (number : UInt16) (inverted : Bool) : Except LayoutError (Option String) :=
  let named (name : String) := .ok (some (if inverted then "!" ++ name else name))
  if number = 0 then .ok none
  else if number = 6 then named "tcp"
  else if number = 17 then named "udp"
  else if number = 1 then named "icmp"
  else .error (.unsupportedProtocol number)

end FilterWatch.Protocol
