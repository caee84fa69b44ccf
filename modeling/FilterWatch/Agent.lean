import FilterWatch.Agent.Config
import FilterWatch.Collector.Events
import FilterWatch.CommandLine
import FilterWatch.Event.Output
import FilterWatch.Event.Table

/-!
The agent: it reads its configuration, and then either makes one pass and prints its result, or
repeats the pass until a signal ends it. A repeated pass that fails is logged and ends nothing.
-/

namespace FilterWatch

/-- What a pass finds: the tables, and its host and time. -/
structure Pass where
  source : TableSource
  origin : Origin

inductive Signal
  | interrupt
  | terminate
  deriving DecidableEq, Repr

def Signal.name : Signal → String
  | interrupt => "SIGINT"
  | terminate => "SIGTERM"

/-- What comes at a tick: how the kernel answers, and the host and the time of the pass. -/
structure Tick where
  kernel : Kernel
  origin : Origin

def Tick.pass (tick : Tick) : Pass := ⟨tick.kernel.snapshot, tick.origin⟩

/-- What the loop of repeated passes waits for. -/
inductive Occurrence
  | tick (tick : Tick)
  | signal (signal : Signal)

inductive AgentError
  | config (error : AgentConfigError)
  | settings (error : ConfigError)
  | pass (table : String) (error : CollectError)
  | print (error : PrintError)
  deriving DecidableEq, Repr

def AgentError.failure : AgentError → Failure
  | config error => error.failure
  | settings error => ⟨s!"Invalid configuration of {Collector.name}", [error.message]⟩
  | pass table error => error.failure.within s!"Error collecting rules of table '{table}'"
  | print error => error.failure

namespace Agent

def defaultDirectory : String := "/var/lib/bastion"

def defaultFile : String := defaultDirectory ++ "/bastion.ini"

/-- The collector's configuration in the configuration file. -/
def configure (options : AgentOptions) (isRoot : Bool) (file : FileContent) :
    Attempt AgentError CollectorConfig := do
  Traced.log .trace s!"Agent Options: {options.text}"
  if !isRoot then
    Traced.log .warn "Reading packet filter tables usually needs root privileges"
  let path := options.configFile?.getD defaultFile
  let config ← (AgentConfig.ofFile path file).mapError .config
  let settings := config.settings Collector.name
  Attempt.ofExcept ((CollectorConfig.ofSettings settings).mapError .settings)

def snapshot (pass : Pass) (config : CollectorConfig) (format : OutputFormat) :
    Attempt AgentError Unit := do
  let events ←
    (Collector.events pass.source config pass.origin).mapError (.pass config.table)
  match events, format with
  | none, _ => return ()
  | some events, .plaintext => Traced.print (Event.table events).text
  | some events, .json => (Event.printJson events).mapError .print

def runPass (pass : Pass) (config : CollectorConfig) : Attempt AgentError Unit := do
  match ← (Collector.events pass.source config pass.origin).caught with
  | .ok none => return ()
  | .ok (some events) => (Event.print events config.outputFormat).mapError .print
  | .error error => error.failure.log "Collection pass failed"

/-- Tells of the repeated passes to come, and whether there will be any. -/
def announce (config : CollectorConfig) : Traced Bool := do
  if config.enabled then
    Traced.log .info s!"Reporting rules of table '{config.table}' every {config.interval}s"
  else
    Traced.log .info s!"{Collector.name} is disabled, nothing to do"
  return config.enabled

/-- What the agent tells when a signal ends it. -/
def stop (signal : Signal) : Attempt AgentError Unit := do
  Traced.log .trace s!"{signal.name} received"
  Traced.log .info "Terminating Bastion Agent..."

/-- The loop of repeated passes, one occurrence after the other. A signal ends it. -/
def serve (config : CollectorConfig) : List Occurrence → Attempt AgentError Unit
  | [] => return ()
  | .tick tick :: later => do
    runPass tick.pass config
    serve config later
  | .signal signal :: _ => stop signal

/-- The agent from its start on, with all that occurs. -/
def watch (occurrences : List Occurrence) (config : CollectorConfig) : Attempt AgentError Unit := do
  if ← announce config then serve config occurrences

/-- Makes the given passes, after which a signal comes. -/
def run (passes : List Pass) (signal : Signal) (config : CollectorConfig) :
    Attempt AgentError Unit := do
  if ← announce config then
    passes.forM fun pass => runPass pass config
    stop signal

def snapshotFormat (json : Bool) (config : CollectorConfig) : OutputFormat :=
  if json then .json else config.outputFormat

/-- Does what the options ask for. A single pass is the first of the given ones; repeated passes are
the first and the later ones. -/
def perform (options : AgentOptions) (isRoot : Bool) (file : FileContent) (first : Pass)
    (later : List Pass) (signal : Signal) : Attempt AgentError Unit := do
  let config ← configure options isRoot file
  match options.command with
  | .snapshot json => snapshot first config (snapshotFormat json config)
  | .run => run (first :: later) signal config

end Agent

end FilterWatch
