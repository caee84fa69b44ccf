import FilterWatch.Collector.Config
import FilterWatch.Event.FirewallRule
import FilterWatch.Failure
import FilterWatch.Kernel
import FilterWatch.Rule

/-!
One collecting pass: a snapshot of the configured table, as the rules of the reported chains in
order. A rule that cannot be read is skipped with a warning, or ends the pass where the
configuration says so. The policy of a built-in chain is reported as a last rule of it.
-/

namespace FilterWatch

inductive CollectError
  | snapshot (table : String) (error : SnapshotError)
  | chain (table : String) (error : LayoutError)
  | rule (chain : String) (priority : Nat) (error : LayoutError)
  deriving DecidableEq, Repr

namespace CollectError

def message : CollectError → String
  | snapshot table _ => s!"taking a snapshot of table '{table}'"
  | chain table _ => s!"reading chains of table '{table}'"
  | rule name priority _ => s!"decoding rule {priority} of chain {name}"

def causes : CollectError → List String
  | snapshot _ error => error.message :: error.causes
  | chain _ error | rule _ _ error => [error.message]

def failure (error : CollectError) : Failure := ⟨error.message, error.causes⟩

end CollectError

namespace Collector

/-- The name under which the collector is configured and signs its events. -/
def name : String := "firewall-collector"

/-- The way of the packets that a chain sees, by the chain's name. -/
def direction? (chain : String) : Option Direction :=
  if chain = "INPUT" then some .incoming
  else if chain = "OUTPUT" then some .outgoing
  else none

/-- The reported action; only an action of neither kind has a target. -/
def reportedAction : Option Action → Option RuleAction × Option String
  | some .allow => (some .allow, none)
  | some .deny => (some .deny, none)
  | some (.other text) => (some .other, some text)
  | none => (none, none)

def reportedRule (rule : DecodedRule) : FirewallRule where
  chain := rule.chain
  priority := rule.index
  direction := direction? rule.chain
  action := (reportedAction rule.action).1
  target := (reportedAction rule.action).2
  sourceAddress := rule.sourceAddress
  destinationAddress := rule.destinationAddress
  sourcePort := rule.sourcePort
  destinationPort := rule.destinationPort
  protocol := rule.protocol

/-- The policy of a chain as the rule after its last. -/
def reportedPolicy (chain : Chain) (policy : Action) : FirewallRule :=
  { FirewallRule.bare chain.name chain.rules.length with
    direction := direction? chain.name
    action := (reportedAction (some policy)).1
    target := (reportedAction (some policy)).2 }

/-- The rule, or nothing where it cannot be read and need not be. -/
def collectRule (config : CollectorConfig) (rule : Rule) :
    Attempt CollectError (Option FirewallRule) := do
  match ← rule.decode.caught with
  | .ok decoded => return some (reportedRule decoded)
  | .error error =>
    if config.abortOnError then throw (.rule rule.chain.name rule.index error)
    Traced.log .warn s!"skipping rule {rule.index} of chain {rule.chain.name}: {error.message}"
    return none

def collectChain (config : CollectorConfig) (table : Table) (chain : Chain) :
    Attempt CollectError (List FirewallRule) := do
  if !config.reports chain.name then
    Traced.log .trace s!"skipping chain {chain.name}"
    return []
  let rules ← (table.rulesOf chain).mapM (collectRule config)
  let policy ← Attempt.ofExcept ((table.policy chain).mapError (.chain config.table))
  return rules.filterMap id ++ policy.toList.map (reportedPolicy chain)

def collectTable (config : CollectorConfig) (table : Table) :
    Attempt CollectError (List FirewallRule) := do
  return (← table.chains.mapM (collectChain config table)).flatten

/-- The rules of the configured table, or none where it is not there. -/
def collect (source : TableSource) (config : CollectorConfig) :
    Attempt CollectError (Option (List FirewallRule)) := do
  match ← (source config.table).mapError (.snapshot config.table) with
  | none =>
    Traced.log .info s!"table '{config.table}' not available on this device"
    return none
  | some table =>
    let rules ← collectTable config table
    Traced.log .debug s!"collected {rules.length} rules from table '{config.table}'"
    return some rules

end Collector

end FilterWatch
