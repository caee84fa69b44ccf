import FilterWatch.Event
import FilterWatch.TextTable

/-! Events as a table with one row for each rule. -/

namespace FilterWatch.Event

def tableHeader : List String := [
  "CHAIN", "PRIORITY", "DIRECTION", "ACTION", "TARGET", "PROTOCOL", "SOURCE", "SOURCE PORT",
  "DESTINATION", "DESTINATION PORT"]

/-- The cells of a rule; an absent field is shown as a dash. -/
def tableRow (rule : FirewallRule) : List String :=
  let shown (value : Option String) := value.getD "-"
  [rule.chain, toString rule.priority, shown (rule.direction.map Direction.name),
    shown (rule.action.map RuleAction.name), shown rule.target, shown rule.protocol,
    shown rule.sourceAddress, shown rule.sourcePort, shown rule.destinationAddress,
    shown rule.destinationPort]

def table (events : List Event) : TextTable where
  header := tableHeader
  rows := events.map fun event => tableRow event.rule

end FilterWatch.Event
