/-! A rule as it is reported. -/

namespace FilterWatch

/-- The way of the packets, seen from the host. -/
inductive Direction
  | incoming
  | outgoing
  deriving DecidableEq, Repr

inductive RuleAction
  | allow
  | deny
  | other
  deriving DecidableEq, Repr

def Direction.name : Direction → String
  | incoming => "In"
  | outgoing => "Out"

def Direction.ofName? (name : String) : Option Direction :=
  if name = "In" then some .incoming else if name = "Out" then some .outgoing else none

def RuleAction.name : RuleAction → String
  | allow => "Allow"
  | deny => "Deny"
  | other => "Other"

def RuleAction.ofName? (name : String) : Option RuleAction :=
  if name = "Allow" then some .allow
  else if name = "Deny" then some .deny
  else if name = "Other" then some .other
  else none

structure FirewallRule where
  chain : String
  priority : Nat
  direction : Option Direction
  action : Option RuleAction
  target : Option String
  sourceAddress : Option String
  destinationAddress : Option String
  sourcePort : Option String
  destinationPort : Option String
  protocol : Option String
  deriving DecidableEq, Repr

namespace FirewallRule

/-- A rule of which only the place is known. -/
def bare (chain : String) (priority : Nat) : FirewallRule where
  chain
  priority
  direction := none
  action := none
  target := none
  sourceAddress := none
  destinationAddress := none
  sourcePort := none
  destinationPort := none
  protocol := none

/-- The fields that hold texts and can be absent, with their names. -/
def optionalTexts (rule : FirewallRule) : List (String × Option String) := [
  ("target", rule.target),
  ("source_address", rule.sourceAddress),
  ("destination_address", rule.destinationAddress),
  ("source_port", rule.sourcePort),
  ("destination_port", rule.destinationPort),
  ("protocol", rule.protocol)]

/-- The rule in words; absent fields are left out. -/
def text (rule : FirewallRule) : String :=
  let fields := [("chain", some rule.chain), ("priority", some (toString rule.priority)),
    ("direction", rule.direction.map Direction.name), ("action", rule.action.map RuleAction.name)]
  let shown := (fields ++ rule.optionalTexts).filterMap fun (name, value) =>
    value.map fun value => s!"{name}: {value}"
  "\x7b " ++ ", ".intercalate shown ++ " \x7d"

end FirewallRule

end FilterWatch
