import FilterWatch.Bytes
import FilterWatch.Failure
import FilterWatch.Ini
import FilterWatch.Settings

/-!
The configuration of the agent: a text in which each section holds the settings of the module of its
name. It comes from a file or is given as it is.
-/

namespace FilterWatch

structure AgentConfig where
  /-- The file that the configuration was read from. -/
  file? : Option String
  properties : List IniProperty
  deriving DecidableEq, Repr

/-- What there is at the place of a file. -/
inductive FileContent
  | missing
  | unreadable (cause : String)
  | bytes (bytes : Bytes)
  deriving DecidableEq, Repr

/-- Why there is no configuration. -/
inductive AgentConfigError
  | missing (path : String)
  | unreadable (path cause : String)
  /-- The file is not in UTF-8. -/
  | undecodable (path : String)
  | malformed (file? : Option String) (error : Ini.Error)
  deriving DecidableEq, Repr

namespace AgentConfigError

def loading (path : String) : String := s!"Error loading configuration from {Text.spelledPath path}"

def failure : AgentConfigError → Failure
  | missing path => ⟨s!"Configuration file {path} not found", []⟩
  | unreadable path cause => ⟨loading path, [cause]⟩
  | undecodable path => ⟨loading path, ["stream did not contain valid UTF-8"]⟩
  | malformed (some path) error => ⟨loading path, [error.message]⟩
  | malformed none error => ⟨"Error parsing configuration", [error.message]⟩

end AgentConfigError

namespace AgentConfig

/-- The settings of a module: those of all sections of its name, in the order of the text. -/
def settings (config : AgentConfig) (moduleName : String) : Settings :=
  let ofModule := config.properties.filter (·.sectionName? = some moduleName)
  Settings.ofList (ofModule.map fun property => (property.key, property.value))

/-- Logs a property, if it stands in a section. -/
def logProperty (property : IniProperty) : Traced Unit :=
  match property.sectionName? with
  | none => return ()
  | some sectionName =>
    Traced.log .debug s!"{sectionName}.{property.key}={property.value}"

/-- The configuration that a text describes. Its properties are logged when all of it is read. -/
def ofText (file? : Option String) (text : String) : Attempt AgentConfigError AgentConfig := do
  let properties ← Attempt.ofExcept ((Ini.parse text).mapError (.malformed file?))
  properties.forM fun property => logProperty property
  return { file?, properties }

/-- The bytes behind the mark that a file in UTF-8 may begin with. -/
def unmarked (bytes : Bytes) : Bytes :=
  if bytes.take 3 = [0xEF, 0xBB, 0xBF] then bytes.drop 3 else bytes

def ofFile (path : String) (content : FileContent) : Attempt AgentConfigError AgentConfig :=
  match content with
  | .missing => throw (.missing path)
  | .unreadable cause => throw (.unreadable path cause)
  | .bytes bytes =>
    match (unmarked bytes).toText? with
    | some text => ofText (some path) text
    | none => throw (.undecodable path)

end AgentConfig

end FilterWatch
