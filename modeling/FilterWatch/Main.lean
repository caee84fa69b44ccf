import FilterWatch.Agent

/-!
The program: it reads the arguments, the configuration file and the clock, and writes the log to the
standard error and all else to the standard output. A signal ends it at once.
-/

namespace FilterWatch.Program

/-- Carries out what a computation has left in its trace. -/
def carryOut (kept : Level) (run : Traced α) : IO α := do
  for effect in run.trace do
    match effect with
    | .print text => IO.print text
    | .log message =>
      if message.level.shownAt (some kept) then
        IO.eprintln s!"[{message.level.name}] {message.text}"
    | .ask _ => pure ()
  (← IO.getStdout).flush
  return run.value

def contentOf (path : String) : IO FileContent := do
  try
    return .bytes (← IO.FS.readBinFile path).toList
  catch
    | .noFileOrDirectory .. => return .missing
    | error => return .unreadable (toString error)

/-- The content of the default file, which is made empty where it is missing. -/
def contentOfDefault : IO FileContent := do
  match ← contentOf Agent.defaultFile with
  | .missing =>
    try
      IO.FS.createDirAll Agent.defaultDirectory
      IO.FS.writeFile Agent.defaultFile ""
      return .bytes []
    catch error => return .unreadable (toString error)
  | content => return content

def actsForRoot : IO Bool := do
  let lines := (← IO.FS.readFile "/proc/self/status").splitOn "\n"
  return lines.any fun line =>
    match line.splitOn "\t" with
    | "Uid:" :: _ :: effective :: _ => effective = "0"
    | _ => false

def hostname : IO String := do
  return String.ofList (Text.trim (← IO.FS.readFile "/proc/sys/kernel/hostname").toList)

/-- The time, as the file system tells it of a new file. -/
def now : IO Time := do
  let (_, path) ← IO.FS.createTempFile
  let modified := (← path.metadata).modified
  IO.FS.removeFile path
  return Time.ofParts modified.sec modified.nsec.toNat

/-- A pass of this moment. No packet filter is within reach of the process, so the pass meets a
system without one. -/
def newPass : IO Pass := do
  let entropy := Bytes.value (← IO.getRandomBytes 16).toList
  let time ← now
  return {
    source := Kernel.absent.snapshot
    origin := ⟨← hostname, Uuid.random (BitVec.ofNat 128 entropy), fun _ => time⟩ }

/-- Waits for a point in time, in milliseconds. -/
partial def waitUntil (deadline : Nat) : IO Unit := do
  let present ← IO.monoMsNow
  if present < deadline then
    IO.sleep (UInt32.ofNat (min 1000 (deadline - present)))
    waitUntil deadline

/-- Makes passes for as long as none fails to print. -/
partial def repeatPasses (kept : Level) (config : CollectorConfig) (deadline : Nat) :
    IO (Except AgentError Unit) := do
  waitUntil deadline
  match ← carryOut kept (Agent.runPass (← newPass) config).outcome with
  | .ok _ => repeatPasses kept config (deadline + 1000 * config.interval)
  | .error error => return .error error

def perform (options : AgentOptions) : IO (Except AgentError Unit) := do
  let kept := options.level
  let content ← match options.configFile? with
    | some path => contentOf path
    | none => contentOfDefault
  let configured := Agent.configure options (← actsForRoot) content
  match ← carryOut kept configured.outcome with
  | .error error => return .error error
  | .ok config =>
    match options.command with
    | .snapshot json =>
      let format := Agent.snapshotFormat json config
      carryOut kept (Agent.snapshot (← newPass) config format).outcome
    | .run =>
      if ← carryOut kept (Agent.announce config) then
        repeatPasses kept config (← IO.monoMsNow)
      else return .ok ()

def start (arguments : List String) : IO UInt32 := do
  match CommandLine.read arguments with
  | .error stop =>
    if stop.isAnswer then
      IO.print stop.text
      return 0
    IO.eprint stop.text
    return 2
  | .ok options =>
    match ← perform options with
    | .ok _ => return 0
    | .error error =>
      carryOut options.level (error.failure.logFinal (some options.level))
      return 1

end FilterWatch.Program

def main (arguments : List String) : IO UInt32 := FilterWatch.Program.start arguments
