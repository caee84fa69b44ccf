import FilterWatch.Collector
import FilterWatch.Event

/-! The events of a pass: its rules, signed by the collector and with one identifier in common. -/

namespace FilterWatch

/-- The host and the time of a pass, and the identifier that its events share. -/
structure Origin where
  hostname : String
  snapshot : Uuid
  /-- The time at which the event of a rule is made, by the rule's place among the collected. -/
  clock : Nat → Time

namespace Origin

def header (origin : Origin) (index : Nat) : EventHeader where
  source := Collector.name
  hostname := origin.hostname
  snapshot := origin.snapshot
  timestamp := origin.clock index

def events (origin : Origin) (rules : List FirewallRule) : List Event :=
  rules.zipIdx.map fun (rule, index) => { header := origin.header index, rule }

end Origin

/-- The events of a pass, or none where the configured table is not there. -/
def Collector.events (source : TableSource) (config : CollectorConfig) (origin : Origin) :
    Attempt CollectError (Option (List Event)) := do
  return (← collect source config).map origin.events

end FilterWatch
