import FilterWatch.Agent.Config
import FilterWatch.Collector
import FilterWatch.Proofs.Attempts
import FilterWatch.Proofs.Numerals
import Mathlib.Data.List.Induction

/-! What a configuration tells the collector. Of the properties under a key in sections of the collector's name only
the last one is looked at, wherever the sections stand; what it tells is taken or refused, and only a key
that no such section has is left at its default. -/

namespace FilterWatch
open Proofs.Outcomes

namespace Settings

theorem get?_insert (settings : Settings) (key value other : String) :
    (settings.insert key value).get? other = if other = key then some value else settings.get? other := by
  simp only [get?, insert, List.lookup_cons]
  by_cases same : other = key
  · simp [same]
  · simp [same, beq_false_of_ne same]

/-- What a setting comes to: the default where there is no text, and otherwise what the text tells. -/
def Tells (told : Option String) (reads : String → α → Prop) (default value : α) : Prop :=
  match told with
  | none => value = default
  | some text => reads text value

/-- There is a text, and it tells nothing. -/
def Offends (told : Option String) (reads : String → α → Prop) : Prop :=
  ∃ text, told = some text ∧ ∀ value, ¬ reads text value

end Settings

/-- The outcome is an error in the setting under a key. -/
def ConfigError.Blames (outcome : Except ConfigError α) (key : String) : Prop :=
  ∃ error, outcome = .error error ∧ error.field = key

open ConfigError

theorem ConfigError.blames_bind {first : Except ConfigError α} {next : α → Except ConfigError β} {key : String} :
    Blames (first >>= next) key ↔ Blames first key ∨ ∃ value, first = .ok value ∧ Blames (next value) key := by
  cases first with
  | ok value => simp [Blames, ok_bind]
  | error error => simp [Blames, error_bind]

theorem ConfigError.not_blames_ok (value : α) (key : String) : ¬ Blames (.ok value) key := nofun

/-- The first of the keys of which a property holds. -/
def IsFirst (holds : String → Prop) (keys : List String) (key : String) : Prop :=
  ∃ before after, keys = before ++ key :: after ∧ holds key ∧ ∀ other ∈ before, ¬ holds other

theorem not_isFirst_nil {holds : String → Prop} {key : String} : ¬ IsFirst holds [] key := by
  rintro ⟨before, after, none, _⟩
  simp at none

theorem isFirst_cons {holds : String → Prop} {head key : String} {rest : List String} :
    IsFirst holds (head :: rest) key ↔ (key = head ∧ holds head) ∨ (¬ holds head ∧ IsFirst holds rest key) := by
  constructor
  · rintro ⟨before, after, keys, here, earlier⟩
    cases before with
    | nil =>
      obtain ⟨rfl, rfl⟩ := List.cons.inj keys
      exact .inl ⟨rfl, here⟩
    | cons first others =>
      obtain ⟨rfl, rfl⟩ := List.cons.inj keys
      exact .inr ⟨earlier _ (by simp), others, after, rfl, here, fun other member => earlier other (by simp [member])⟩
  · rintro (⟨rfl, here⟩ | ⟨other, before, after, rfl, here, earlier⟩)
    · exact ⟨[], rest, rfl, here, by simp⟩
    · refine ⟨head :: before, after, rfl, here, ?_⟩
      simpa using ⟨other, earlier⟩

/-- A check of one key stands before the checks of further keys, which are made only if it finds no error. -/
theorem ConfigError.blames_cons {first : Except ConfigError α} {next : α → Except ConfigError β}
    {holds : String → Prop} {head : String} {rest : List String} (own : ∀ key, Blames first key ↔ key = head ∧ holds head)
    (later : ∀ value key, Blames (next value) key ↔ IsFirst holds rest key) (key : String) :
    Blames (first >>= next) key ↔ IsFirst holds (head :: rest) key := by
  rw [isFirst_cons, blames_bind, own]
  cases first with
  | ok value =>
    have good : ¬ holds head := fun bad => not_blames_ok value head ((own head).mpr ⟨rfl, bad⟩)
    simp [good, later]
  | error error =>
    have bad : holds head := ((own error.field).mp ⟨error, rfl, rfl⟩).2
    simp [bad]

theorem ConfigError.blames_after {first : Except ConfigError α} {next : α → Except ConfigError β}
    {holds : String → Prop} {keys : List String} (never : ∀ key, ¬ Blames first key)
    (later : ∀ value key, Blames (next value) key ↔ IsFirst holds keys key) (key : String) :
    Blames (first >>= next) key ↔ IsFirst holds keys key := by
  cases first with
  | ok value => exact later value key
  | error error => exact absurd ⟨error, rfl, rfl⟩ (never error.field)

namespace Settings

variable {settings : Settings} {reading : Reading α} {reads : String → α → Prop} {key : String}

theorem withDefault_eq_ok (sound : ∀ text value, reading text = .ok value ↔ reads text value) {default value : α} :
    settings.withDefault reading key default = .ok value ↔ Tells (settings.get? key) reads default value := by
  unfold withDefault optional Tells
  cases settings.get? key with
  | none => exact ⟨fun same => (Except.ok.inj same).symm, fun same => congrArg Except.ok same.symm⟩
  | some text =>
    dsimp only
    rw [← sound, read]
    cases reading text <;> simp [Except.mapError, Except.map]

theorem withDefault_blames (sound : ∀ text value, reading text = .ok value ↔ reads text value) {default : α}
    {name : String} : Blames (settings.withDefault reading key default) name ↔
      name = key ∧ Offends (settings.get? key) reads := by
  unfold withDefault optional Offends
  cases settings.get? key with
  | none => exact iff_of_false (not_blames_ok _ _) nofun
  | some text =>
    simp only [Option.some.injEq, ← sound, exists_eq_left', read]
    cases reading text with
    | ok value => exact iff_of_false (not_blames_ok _ _) fun ⟨_, refused⟩ => refused value rfl
    | error reason => simp [Blames, Except.mapError, Except.map, eq_comm]

theorem text_eq_ok (text value : String) : Reading.text text = .ok value ↔ value = text :=
  ⟨fun same => (Except.ok.inj same).symm, fun same => congrArg Except.ok same.symm⟩

theorem text_never_blamed {default name : String} : ¬ Blames (settings.withDefault Reading.text key default) name := by
  intro blamed
  obtain ⟨_, text, _, refused⟩ := (withDefault_blames text_eq_ok).mp blamed
  exact refused text rfl

theorem list_text (settings : Settings) (key : String) :
    settings.list Reading.text key = .ok (((settings.get? key).map items).getD []) := by
  unfold list
  cases settings.get? key with
  | none => rfl
  | some text =>
    have each : ∀ item ∈ items text, Settings.read Reading.text key item = .ok item := fun _ _ => rfl
    simpa using mapM_of_ok each

theorem list_eq_ok {values : List String} : settings.list Reading.text key = .ok values ↔
    Tells (settings.get? key) (fun text values => values = items text) [] values := by
  rw [list_text, Except.ok.injEq, eq_comm]
  cases settings.get? key <;> rfl

end Settings

namespace CollectorConfig
open Settings

/-- A time between two passes, as its text tells it. -/
def Period (text : String) (seconds : Nat) : Prop :=
  Reading.Numeral text seconds ∧ 0 < seconds ∧ seconds < 2 ^ 64

/-- A switch is spelled in small letters. -/
def Switch (text : String) (on : Bool) : Prop := text = if on then "true" else "false"

/-- The name of a format in any case. -/
def Format (text : String) (format : OutputFormat) : Prop :=
  text.toList.map Char.toLower = match format with
    | .plaintext => "plaintext".toList
    | .json => "json".toList

/-- A configuration is what the texts under the keys tell. -/
structure Describes (told : String → Option String) (config : CollectorConfig) : Prop where
  interval : Tells (told "interval") Period default.interval config.interval
  enabled : Tells (told "enabled") Switch default.enabled config.enabled
  table : Tells (told "table") (fun text table => table = text) default.table config.table
  chains : Tells (told "chains") (fun text chains => chains = items text) default.chains config.chains
  abortOnError : Tells (told "abort_on_error") Switch default.abortOnError config.abortOnError
  outputFormat : Tells (told "output_format") Format default.outputFormat config.outputFormat

/-- The keys in whose texts there can be errors, in the order in which they are looked at. -/
def checkedKeys : List String := ["interval", "enabled", "abort_on_error", "output_format"]

/-- The text under a key tells nothing that the key could have as its value. -/
def Offending (told : String → Option String) (key : String) : Prop :=
  key = "interval" ∧ Offends (told key) Period ∨
    (key = "enabled" ∨ key = "abort_on_error") ∧ Offends (told key) Switch ∨
    key = "output_format" ∧ Offends (told key) Format

variable {settings : Settings} {config : CollectorConfig} {key : String}

theorem switch_eq_ok (text : String) (on : Bool) : Reading.switch text = .ok on ↔ Switch text on := by
  unfold Reading.switch Switch
  split
  next yes =>
    cases on with
    | true => exact iff_of_true rfl yes
    | false => exact iff_of_false nofun (by rw [yes]; decide)
  split
  next no =>
    cases on with
    | true => exact iff_of_false nofun (by rw [no]; decide)
    | false => exact iff_of_true rfl no
  next yes no => exact iff_of_false nofun (by cases on <;> assumption)

theorem format_eq_ok (text : String) (format : OutputFormat) :
    (OutputFormat.ofName text).mapError ConfigError.message = .ok format ↔ Format text format := by
  have apart : "plaintext".toList ≠ "json".toList := by decide
  unfold OutputFormat.ofName Format
  dsimp only
  by_cases first : text.toList.map Char.toLower = "plaintext".toList
  · rw [if_pos first]
    cases format with
    | plaintext => exact iff_of_true rfl first
    | json => exact iff_of_false nofun fun second => apart (first.symm.trans second)
  rw [if_neg first]
  by_cases second : text.toList.map Char.toLower = "json".toList
  · rw [if_pos second]
    cases format with
    | plaintext => exact iff_of_false nofun first
    | json => exact iff_of_true rfl second
  · rw [if_neg second]
    exact iff_of_false nofun (by cases format <;> assumption)

/-- The time between two passes, which is read and checked before all else. -/
def period (settings : Settings) : Except ConfigError Int := do
  let interval ← settings.withDefault (Reading.unsigned 64) "interval" default.interval
  if interval = 0 then throw ⟨"interval", "0", "interval must be at least one second"⟩
  return interval

theorem ofSettings_eq (settings : Settings) : ofSettings settings = do
    let interval ← period settings
    let enabled ← settings.withDefault Reading.switch "enabled" default.enabled
    let table ← settings.withDefault Reading.text "table" default.table
    let chains ← settings.list Reading.text "chains"
    let abortOnError ← settings.withDefault Reading.switch "abort_on_error" default.abortOnError
    let outputFormat ← settings.withDefault
      (fun name => (OutputFormat.ofName name).mapError ConfigError.message) "output_format" default.outputFormat
    return { enabled, table, chains, interval := interval.toNat, abortOnError, outputFormat } := by
  unfold ofSettings period
  cases settings.withDefault (Reading.unsigned 64) "interval" default.interval with
  | error error => rfl
  | ok interval =>
    by_cases zero : interval = 0
    · simp only [ok_bind, if_pos zero]
      rfl
    · simp only [ok_bind, if_neg zero]
      rfl

theorem period_cases (settings : Settings) :
    (∃ seconds : Nat, Tells (settings.get? "interval") Period default.interval seconds ∧
      period settings = .ok seconds) ∨
    (Offends (settings.get? "interval") Period ∧ Blames (period settings) "interval") := by
  unfold period withDefault Settings.optional
  cases settings.get? "interval" with
  | none => exact .inl ⟨300, rfl, rfl⟩
  | some text =>
    dsimp only
    cases parsed : Reading.unsigned 64 text with
    | error reason =>
      refine .inr ⟨⟨text, rfl, fun seconds ⟨numeral, _, small⟩ => ?_⟩, ?_⟩
      · have read := Reading.unsigned_eq_ok.mpr ⟨seconds, numeral, small, rfl⟩
        cases parsed.symm.trans read
      · simp only [Settings.read, parsed]
        exact ⟨_, rfl, rfl⟩
    | ok interval =>
      obtain ⟨seconds, numeral, small, rfl⟩ := Reading.unsigned_eq_ok.mp parsed
      simp only [Settings.read, parsed]
      by_cases zero : seconds = 0
      · subst zero
        refine .inr ⟨⟨text, rfl, fun other ⟨again, positive, _⟩ => ?_⟩, _, rfl, rfl⟩
        have same : other = 0 := again.number.symm.trans numeral.number
        exact absurd positive (by omega)
      · refine .inl ⟨seconds, ⟨numeral, Nat.pos_of_ne_zero zero, small⟩, ?_⟩
        simp only [mapError_ok, Except.map, ok_bind, Option.getD_some]
        rw [if_neg (by omega)]
        rfl

theorem Period.unique {text : String} {first second : Nat} (left : Period text first) (right : Period text second) :
    first = second := left.1.number.symm.trans right.1.number

theorem period_eq_ok {interval : Int} : period settings = .ok interval ↔
    ∃ seconds : Nat, Tells (settings.get? "interval") Period default.interval seconds ∧ interval = seconds := by
  rcases period_cases settings with ⟨seconds, tells, read⟩ | ⟨⟨text, there, refused⟩, error, failed, _⟩
  · rw [read]
    constructor
    · intro same
      exact ⟨seconds, tells, (Except.ok.inj same).symm⟩
    · rintro ⟨other, again, rfl⟩
      cases told : settings.get? "interval" with
      | none =>
        rw [told] at tells again
        rw [tells, again]
      | some text =>
        rw [told] at tells again
        rw [Period.unique tells again]
  · rw [failed, there]
    exact iff_of_false nofun fun ⟨seconds, tells, _⟩ => refused seconds tells

theorem period_blames (key : String) :
    Blames (period settings) key ↔ key = "interval" ∧ Offends (settings.get? "interval") Period := by
  rcases period_cases settings with ⟨seconds, tells, read⟩ | ⟨offends, error, failed, named⟩
  · rw [read]
    refine iff_of_false (not_blames_ok _ _) fun ⟨_, text, there, refused⟩ => ?_
    rw [there] at tells
    exact refused seconds tells
  · simp [Blames, failed, offends, named, eq_comm]

theorem ofSettings_eq_ok : ofSettings settings = .ok config ↔ Describes settings.get? config := by
  rw [ofSettings_eq]
  constructor
  · intro read
    obtain ⟨interval, period, read⟩ := bind_eq_ok.mp read
    obtain ⟨enabled, switched, read⟩ := bind_eq_ok.mp read
    obtain ⟨table, named, read⟩ := bind_eq_ok.mp read
    obtain ⟨chains, listed, read⟩ := bind_eq_ok.mp read
    obtain ⟨abortOnError, strict, read⟩ := bind_eq_ok.mp read
    obtain ⟨outputFormat, formatted, read⟩ := bind_eq_ok.mp read
    cases read
    obtain ⟨seconds, tells, rfl⟩ := period_eq_ok.mp period
    exact {
      interval := tells
      enabled := (withDefault_eq_ok switch_eq_ok).mp switched
      table := (withDefault_eq_ok text_eq_ok).mp named
      chains := list_eq_ok.mp listed
      abortOnError := (withDefault_eq_ok switch_eq_ok).mp strict
      outputFormat := (withDefault_eq_ok format_eq_ok).mp formatted }
  · intro describes
    have period := period_eq_ok.mpr ⟨config.interval, describes.interval, rfl⟩
    have switched := (withDefault_eq_ok switch_eq_ok).mpr describes.enabled
    have named := (withDefault_eq_ok text_eq_ok).mpr describes.table
    have listed := list_eq_ok.mpr describes.chains
    have strict := (withDefault_eq_ok switch_eq_ok).mpr describes.abortOnError
    have formatted := (withDefault_eq_ok format_eq_ok).mpr describes.outputFormat
    rw [period, ok_bind, switched, ok_bind, named, ok_bind, listed, ok_bind, strict, ok_bind, formatted, ok_bind]
    rfl

theorem ofSettings_blames : Blames (ofSettings settings) key ↔ IsFirst (Offending settings.get?) checkedKeys key := by
  rw [ofSettings_eq]
  refine blames_cons (fun key => ?_) (fun _ => ?_) key
  · rw [period_blames]
    simp [Offending]
  refine blames_cons (fun key => ?_) (fun _ => ?_)
  · rw [withDefault_blames switch_eq_ok]
    simp [Offending]
  refine blames_after (fun _ => text_never_blamed) fun _ => ?_
  rw [list_text]
  refine blames_after (not_blames_ok _) fun _ => ?_
  refine blames_cons (fun key => ?_) (fun _ => ?_)
  · rw [withDefault_blames switch_eq_ok]
    simp [Offending]
  refine blames_cons (fun key => ?_) (fun _ key => ?_)
  · rw [withDefault_blames format_eq_ok]
    simp [Offending]
  · exact iff_of_false (not_blames_ok _ _) not_isFirst_nil

/-- The keys at which the collector looks. -/
def keys : List String := ["interval", "enabled", "table", "chains", "abort_on_error", "output_format"]

theorem ofSettings_congr {other : Settings} (same : ∀ key ∈ keys, other.get? key = settings.get? key) :
    ofSettings other = ofSettings settings := by
  have withDefault {α : Type} (reading : Reading α) (key : String) (default : α) (member : key ∈ keys) :
      other.withDefault reading key default = settings.withDefault reading key default := by
    simp only [Settings.withDefault, Settings.optional, same key member]
  have listed : other.list Reading.text "chains" = settings.list Reading.text "chains" := by
    rw [list_text, list_text, same "chains" (by decide)]
  rw [ofSettings_eq, ofSettings_eq, period, period, withDefault _ "interval" _ (by decide),
    withDefault _ "enabled" _ (by decide), withDefault _ "table" _ (by decide), listed,
    withDefault _ "abort_on_error" _ (by decide), withDefault _ "output_format" _ (by decide)]

end CollectorConfig

namespace AgentConfig

/-- The value of the last property under a key in the sections of a name. -/
def lastValue? (properties : List IniProperty) (moduleName key : String) : Option String :=
  ((properties.filter fun property => property.sectionName? = some moduleName ∧ property.key = key).getLast?).map
    IniProperty.value

variable {file? : Option String} {properties : List IniProperty} {property : IniProperty} {moduleName key : String}

theorem settings_concat : (AgentConfig.mk file? (properties ++ [property])).settings moduleName =
    if property.sectionName? = some moduleName then
      ((AgentConfig.mk file? properties).settings moduleName).insert property.key property.value
    else (AgentConfig.mk file? properties).settings moduleName := by
  unfold settings
  by_cases own : property.sectionName? = some moduleName
  · simp [own, Settings.ofList, Settings.insert]
  · simp [own]

theorem lastValue?_concat : lastValue? (properties ++ [property]) moduleName key =
    if property.sectionName? = some moduleName ∧ property.key = key then some property.value
    else lastValue? properties moduleName key := by
  unfold lastValue?
  by_cases own : property.sectionName? = some moduleName ∧ property.key = key
  · simp [own]
  · simp [own]

/-- After any number of properties, what is set under a key is the last value that one of them gave it. -/
theorem get?_settings : ((AgentConfig.mk file? properties).settings moduleName).get? key =
    lastValue? properties moduleName key := by
  induction properties using List.reverseRecOn with
  | nil => rfl
  | append_singleton earlier property ih =>
    rw [settings_concat, lastValue?_concat]
    by_cases own : property.sectionName? = some moduleName
    · rw [if_pos own, Settings.get?_insert, ih]
      simp [own, eq_comm]
    · rw [if_neg own, if_neg fun both => own both.1, ih]

/-- The configuration that the agent hands to the collector. -/
def collector (agent : AgentConfig) : Except ConfigError CollectorConfig :=
  CollectorConfig.ofSettings (agent.settings Collector.name)

theorem ofText_value (file? : Option String) {text : String} (parsed : Ini.parse text = .ok properties) :
    (ofText file? text).value = .ok ⟨file?, properties⟩ := by
  have logged (property : IniProperty) :
      Attempt.value (logProperty property : Attempt AgentConfigError Unit) = .ok () := rfl
  rw [ofText, Attempt.value_bind, Attempt.value_ofExcept, parsed, mapError_ok, ok_bind, Attempt.value_bind,
    (Attempt.forM_of_ok fun property _ => logged property).1]
  rfl

/-- What a text tells the collector is decided by the last values under its keys in all sections of its name, wherever
they stand. It is told exactly what these values say, or the first of the checked keys whose value says nothing
that the key could mean is blamed; a default stands in for a missing value only. -/
theorem collector_of_text (file? : Option String) {text : String} {properties : List IniProperty}
    (parsed : Ini.parse text = .ok properties) :
    ∃ agent, (ofText file? text).value = .ok agent ∧
      (∀ other : AgentConfig, (∀ key ∈ CollectorConfig.keys, lastValue? other.properties Collector.name key =
        lastValue? properties Collector.name key) → other.collector = agent.collector) ∧
      (∀ config, agent.collector = .ok config ↔
        CollectorConfig.Describes (lastValue? properties Collector.name) config) ∧
      ∀ key, Blames agent.collector key ↔
        IsFirst (CollectorConfig.Offending (lastValue? properties Collector.name)) CollectorConfig.checkedKeys key := by
  have told : ((AgentConfig.mk file? properties).settings Collector.name).get? = lastValue? properties Collector.name :=
    funext fun _ => get?_settings
  refine ⟨⟨file?, properties⟩, ofText_value file? parsed, ?_, fun config => ?_, fun key => ?_⟩
  · intro other same
    refine CollectorConfig.ofSettings_congr fun key member => ?_
    rw [told, ← same key member]
    exact get?_settings
  · rw [collector, CollectorConfig.ofSettings_eq_ok, told]
  · rw [collector, CollectorConfig.ofSettings_blames, told]

/-- Two sections of the collector, with other properties before, between and in them. -/
def interrupted : String :=
  "interval=9\n[firewall-collector]\ninterval=60\nenabled=false\n[other]\ntable=nat\n" ++
    "[firewall-collector]\ninterval=+090\noutput_format=Json\nchains=INPUT, OUTPUT\n"

theorem interrupted_parsed : Ini.parse interrupted = .ok [
    ⟨none, "interval", "9"⟩, ⟨some "firewall-collector", "interval", "60"⟩,
    ⟨some "firewall-collector", "enabled", "false"⟩, ⟨some "other", "table", "nat"⟩,
    ⟨some "firewall-collector", "interval", "+090"⟩, ⟨some "firewall-collector", "output_format", "Json"⟩,
    ⟨some "firewall-collector", "chains", "INPUT, OUTPUT"⟩] := by
  decide +kernel

theorem collector_of_text_interrupted : ∃ properties, Ini.parse interrupted = .ok properties ∧
    ∃ agent, (ofText none interrupted).value = .ok agent ∧ agent.collector = .ok {
      enabled := false, table := "filter", chains := ["INPUT", "OUTPUT"], interval := 90, abortOnError := false
      outputFormat := .json } := by
  refine ⟨_, interrupted_parsed, ?_⟩
  obtain ⟨agent, read, _, told, _⟩ := collector_of_text none interrupted_parsed
  refine ⟨agent, read, (told _).mpr ?_⟩
  have numeral : Reading.Numeral "+090" 90 := ⟨by decide, List.all_eq_true.mp (by decide), by decide⟩
  have listed : ["INPUT", "OUTPUT"] = Settings.items "INPUT, OUTPUT" := by decide +kernel
  have named : "Json".toList.map Char.toLower = "json".toList := by decide +kernel
  exact {
    interval := ⟨numeral, by decide, by decide⟩
    enabled := rfl
    table := rfl
    chains := listed
    abortOnError := rfl
    outputFormat := named }

end AgentConfig

end FilterWatch
