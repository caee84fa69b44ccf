import FilterWatch.Text.Spelled
import FilterWatch.Trace

/-!
The command line of the agent: options, and one of two commands. The options that are not of one
command only may stand before the command and after it; what is given after it then counts.
Arguments are read from left to right, and the first that is refused, or asks for a text about the
agent, ends the reading.
-/

namespace FilterWatch

inductive AgentCommand
  | run
  | snapshot (json : Bool)
  deriving DecidableEq, Repr

structure AgentOptions where
  configFile? : Option String
  command : AgentCommand
  verbosity : Nat
  deriving DecidableEq, Repr

namespace AgentOptions

/-- The least grave messages that are logged. -/
def level (options : AgentOptions) : Level :=
  match options.verbosity with
  | 0 => .info
  | 1 => .debug
  | _ => .trace

def text (options : AgentOptions) : String :=
  let file :=
    match options.configFile? with
    | some file => s!"Some({Text.spelled file})"
    | none => "None"
  let command :=
    match options.command with
    | .run => "Run"
    | .snapshot json => s!"Snapshot \x7b json: {json} \x7d"
  let level :=
    match options.level with
    | .info => "Info"
    | .debug => "Debug"
    | _ => "Trace"
  s!"AgentOpts \x7b options: BastionOpts \x7b config_file: {file}, command: {command} \x7d, " ++
    s!"override_log_level: {level} \x7d"

end AgentOptions

namespace CommandLine

/-- Why arguments do not lead to a run of the agent. -/
inductive Stop
  | help
  | version (text : String)
  /-- Nothing was given at all, which is answered with help. -/
  | nothingGiven
  | missingCommand
  | unknownCommand
  | unknownArgument
  /-- What may be given once was given twice. -/
  | conflict
  | missingValue
  | excessValue
  deriving DecidableEq, Repr

def helpText : String := "\n".intercalate [
  "Bastion host telemetry agent",
  "",
  "Usage: bastion-agent [OPTIONS] <COMMAND>",
  "",
  "Commands:",
  "  snapshot  Print the rules of the configured table once",
  "            (--json: as one JSON event per line)",
  "  run       Report the rules every interval seconds until interrupted",
  "  help      Print this message",
  "",
  "Options:",
  "      --config-file <CONFIG_FILE>  Configuration file, instead of the default one",
  "  -v, --verbose...                 Log debug messages; given twice, trace messages too",
  "  -h, --help                       Print help",
  "  -V, --version                    Print version",
  ""]

namespace Stop

def text : Stop → String
  | help | nothingGiven => helpText
  | version text => text
  | missingCommand => "error: a command is required\n"
  | unknownCommand => "error: there is no such command\n"
  | unknownArgument => "error: there is an unexpected argument\n"
  | conflict => "error: an argument cannot be used twice\n"
  | missingValue => "error: an argument needs a value\n"
  | excessValue => "error: an argument takes no value\n"

def isAnswer : Stop → Bool
  | help | version _ => true
  | _ => false

end Stop

inductive Argument
  /-- All arguments that follow are words. -/
  | separator
  | long (name : String) (value? : Option String)
  | short (letters : List Char)
  | word (text : String)
  deriving DecidableEq, Repr

/-- The parts before and after the first equals sign. -/
def named (text : List Char) : Argument :=
  let name := String.ofList (text.takeWhile (· ≠ '='))
  match text.dropWhile (· ≠ '=') with
  | [] => .long name none
  | _ :: value => .long name (some (String.ofList value))

def Argument.ofText (text : String) : Argument :=
  match text.toList with
  | ['-', '-'] => .separator
  | '-' :: '-' :: rest => named rest
  | '-' :: letter :: letters => .short (letter :: letters)
  | _ => .word text

inductive Command
  | run
  | snapshot
  deriving DecidableEq, Repr

namespace Command

def name : Command → String
  | run => "run"
  | snapshot => "snapshot"

def ofName? (name : String) : Option Command :=
  if name = "run" then some .run else if name = "snapshot" then some .snapshot else none

def isName (word : String) : Bool := word = "help" || (ofName? word).isSome

end Command

abbrev Position := Option Command

/-- The text about the version, which names the command after which it was asked for. -/
def versionText (position : Position) : String :=
  match position with
  | none => "bastion-agent 0.1.0\n"
  | some command => s!"bastion-agent-{command.name} 0.1.0\n"

/-- The value of an option that takes one. -/
inductive Awaited
  | nothing
  | value
  /-- The value has come, but it is entered only when the next option or the end comes. -/
  | found (value : String)
  deriving DecidableEq, Repr

/-- What was given on one side of the command. -/
structure Given where
  configFile? : Option String
  awaited : Awaited
  verbosity : Nat
  json : Bool
  deriving DecidableEq, Repr

namespace Given

def none : Given := ⟨.none, .nothing, 0, false⟩

/-- Enters the value of the option before. -/
def enter (given : Given) : Except Stop Given :=
  match given.awaited with
  | .nothing => .ok given
  | .value => .error .missingValue
  | .found value =>
    if given.configFile?.isSome then .error .conflict
    else .ok { given with configFile? := some value, awaited := .nothing }

inductive Switch
  | help
  | version
  | verbose
  | json
  deriving DecidableEq, Repr

/-- The switch of a long name; one of them belongs to one command. -/
def Switch.ofName? (position : Position) (name : String) : Option Switch :=
  if name = "help" then some .help
  else if name = "version" then some .version
  else if name = "verbose" then some .verbose
  else if name = "json" ∧ position = some .snapshot then some .json
  else .none

def Switch.ofLetter? (letter : Char) : Option Switch :=
  if letter = 'h' then some .help
  else if letter = 'V' then some .version
  else if letter = 'v' then some .verbose
  else .none

def turn (given : Given) (position : Position) (switch : Switch) : Except Stop Given := do
  let given ← given.enter
  match switch with
  | .help => throw .help
  | .version => throw (.version (versionText position))
  | .verbose => return { given with verbosity := given.verbosity + 1 }
  | .json => if given.json then throw .conflict else return { given with json := true }

def long (given : Given) (position : Position) (name : String) (value? : Option String) :
    Except Stop Given := do
  if name = "config-file" then
    let given ← given.enter
    match value? with
    | some value => enter { given with awaited := .found value }
    | .none => return { given with awaited := .value }
  else
    match Switch.ofName? position name, value? with
    | .none, _ => throw .unknownArgument
    | some _, some _ => throw .excessValue
    | some switch, .none => given.turn position switch

def short (given : Given) (position : Position) (letters : List Char) : Except Stop Given :=
  letters.foldlM (fun given letter =>
    match Switch.ofLetter? letter with
    | some switch => given.turn position switch
    | .none => throw .unknownArgument) given

end Given

def readAfter (command : Command) (given : Given) : List String → Except Stop Given
  | [] => given.enter
  | argument :: rest =>
    match Argument.ofText argument with
    | .separator => if rest = [] then given.enter else throw .unknownArgument
    | .long name value? => do readAfter command (← given.long (some command) name value?) rest
    | .short letters => do readAfter command (← given.short (some command) letters) rest
    | .word text =>
      if given.awaited = .value then readAfter command { given with awaited := .found text } rest
      else throw .unknownArgument

/-- The answer to the word `help`: it may be followed by the name of a command. -/
def helpFor : List String → Stop
  | [] => .help
  | [name] => if Command.isName name then .help else .unknownCommand
  | _ => .unknownCommand

/-- The options of a command line with a command; of what is given on both sides of it, the side
after it counts. -/
def options (command : Command) (before after : Given) : AgentOptions where
  configFile? := after.configFile? <|> before.configFile?
  command :=
    match command with
    | .run => .run
    | .snapshot => .snapshot after.json
  verbosity := if after.verbosity = 0 then before.verbosity else after.verbosity

def withoutCommand (given : Given) : Except Stop AgentOptions := do
  throw (if (← given.enter) = Given.none then .nothingGiven else .missingCommand)

/-- Refuses the words that follow a separator where a command is wanted. The name of a command is
out of place behind it, and any other word is taken for the name of one. -/
def afterSeparator (given : Given) : List String → Except Stop AgentOptions
  | [] => withoutCommand given
  | word :: _ => throw (if Command.isName word then .unknownArgument else .unknownCommand)

def readFrom (given : Given) : List String → Except Stop AgentOptions
  | [] => withoutCommand given
  | argument :: rest =>
    match Argument.ofText argument with
    | .separator => afterSeparator given rest
    | .long name value? => do readFrom (← given.long none name value?) rest
    | .short letters => do readFrom (← given.short none letters) rest
    | .word text =>
      if given.awaited = .value then readFrom { given with awaited := .found text } rest
      else
        match Command.ofName? text with
        | some command => do
          let after ← readAfter command Given.none rest
          return options command (← given.enter) after
        | none => throw (if text = "help" then helpFor rest else .unknownCommand)

def read (arguments : List String) : Except Stop AgentOptions := readFrom Given.none arguments

end CommandLine

end FilterWatch
