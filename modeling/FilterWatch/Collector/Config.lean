import FilterWatch.Settings

/-! What the collector is told: which table to read, how often, and how to write the events. -/

namespace FilterWatch

inductive OutputFormat
  | plaintext
  | json
  deriving DecidableEq, Repr

/-- The format of a name in any case. No letter outside ASCII has one of the letters of these names
as its lower case, so lowering ASCII letters is enough. -/
def OutputFormat.ofName (name : String) : Except ConfigError OutputFormat :=
  let lower := name.toList.map Char.toLower
  if lower = "plaintext".toList then .ok .plaintext
  else if lower = "json".toList then .ok .json
  else .error ⟨"output_format", name, "Output format must be one of [plaintext, json]"⟩

structure CollectorConfig where
  enabled : Bool
  table : String
  /-- The chains to report; all of them where none is named. -/
  chains : List String
  /-- The seconds from one pass to the next. -/
  interval : Nat
  /-- Whether a rule that cannot be read ends the pass. -/
  abortOnError : Bool
  outputFormat : OutputFormat
  deriving DecidableEq, Repr

namespace CollectorConfig

def default : CollectorConfig where
  enabled := true
  table := "filter"
  chains := []
  interval := 300
  abortOnError := false
  outputFormat := .plaintext

/-- The configuration that settings describe, or the first of their errors. -/
def ofSettings (settings : Settings) : Except ConfigError CollectorConfig := do
  let interval ← settings.withDefault (Reading.unsigned 64) "interval" default.interval
  if interval = 0 then throw ⟨"interval", "0", "interval must be at least one second"⟩
  let enabled ← settings.withDefault Reading.switch "enabled" default.enabled
  let table ← settings.withDefault Reading.text "table" default.table
  let chains ← settings.list Reading.text "chains"
  let abortOnError ← settings.withDefault Reading.switch "abort_on_error" default.abortOnError
  let outputFormat ← settings.withDefault
    (fun name => (OutputFormat.ofName name).mapError ConfigError.message)
    "output_format" default.outputFormat
  return { enabled, table, chains, interval := interval.toNat, abortOnError, outputFormat }

def reports (config : CollectorConfig) (chain : String) : Bool :=
  config.chains.isEmpty || config.chains.contains chain

end CollectorConfig

end FilterWatch
