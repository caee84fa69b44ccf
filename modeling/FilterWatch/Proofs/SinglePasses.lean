import FilterWatch.Proofs.DrawnTables
import FilterWatch.Proofs.JsonTexts
import FilterWatch.Proofs.RepeatedPasses

/-! A single pass and what it prints: all of its events, or nothing. As JSON it prints what a repeated pass prints that
meets the same kernel. -/

namespace FilterWatch
open Proofs.Outcomes

namespace Event
open Attempt

/-- The line that a JSON text is printed as. -/
inductive IsLine (event : Event) : String → Prop
  | json {text : String} (written : event.json? = some text) (unbroken : Unbroken text) : IsLine event (text ++ "\n")

theorem isLine_of_lineOf {event : Event} {line : String} (shown : lineOf? .json event = some line) :
    IsLine event line := by
  obtain ⟨text, written, rfl⟩ := Option.map_eq_some_iff.mp shown
  exact .json written (unbroken_json written)

theorem jsonLines_of_early {events : List Event} (early : ∃ event ∈ events, event.header.timestamp.seconds < 0) :
    jsonLines events = .error .beforeEpoch := by
  obtain ⟨event, member, past⟩ := early
  cases read : jsonLines events with
  | ok texts =>
    obtain ⟨text, -, shown⟩ := exists_of_mapM read member
    have unwritten : event.json? = none := if_pos past
    rw [unwritten] at shown
    cases shown
  | error error =>
    obtain ⟨-, other, -, -, -, failed⟩ := mapM_eq_error.mp read
    cases written : other.json? with
    | some text =>
      rw [written] at failed
      cases failed
    | none =>
      rw [written] at failed
      cases failed
      rfl

/-- All lines are printed, or the time of some event has no line and nothing is. -/
theorem printJson_cases (events : List Event) :
    (∃ lines, List.Forall₂ IsLine events lines ∧ (printJson events).value = .ok () ∧
      (printJson events).printed = lines) ∨
    ((∃ event ∈ events, event.header.timestamp.seconds < 0) ∧ (printJson events).value = .error .beforeEpoch ∧
      (printJson events).printed = []) := by
  by_cases early : ∃ event ∈ events, event.header.timestamp.seconds < 0
  · right
    have unwritten := jsonLines_of_early early
    refine ⟨early, ?_, ?_⟩
    · rw [printJson, unwritten]
      rfl
    · rw [printJson, unwritten]
      rfl
  · left
    have told : ∀ event ∈ events, OutputFormat.json.Tells event.header.timestamp := by
      intro event member
      exact Int.not_lt.mp fun past => early ⟨event, member, past⟩
    obtain ⟨lines, each⟩ := exists_lines told
    obtain ⟨value, trace⟩ := print_of_lines each
    refine ⟨lines, ?_, value, ?_⟩
    · have shown : List.Forall₂ Eq (events.map (lineOf? .json)) (lines.map some) := by
        rw [List.forall₂_eq_eq_eq]
        exact each
      rw [List.forall₂_map_left_iff, List.forall₂_map_right_iff] at shown
      exact shown.imp fun _ _ => isLine_of_lineOf
    · have printed : (printJson events).trace = lines.map .print := trace
      rw [Attempt.printed, printed, List.filterMap_map]
      exact List.filterMap_some

/-- Two events tell the same of a rule, apart from their pass and their time. -/
structure Twins (event other : Event) : Prop where
  source : event.header.source = other.header.source
  hostname : event.header.hostname = other.header.hostname
  rule : event.rule = other.rule

inductive TwinLines : String → String → Prop
  | json {event other : Event} {line copy : String} (twins : Twins event other) (shown : IsLine event line)
      (also : IsLine other copy) : TwinLines line copy

theorem twinLines_of_twins {events others : List Event} {lines copies : List String}
    (twins : List.Forall₂ Twins events others) (shown : List.Forall₂ IsLine events lines)
    (also : List.Forall₂ IsLine others copies) : List.Forall₂ TwinLines lines copies := by
  induction twins generalizing lines copies with
  | nil =>
    cases shown
    cases also
    exact .nil
  | cons alike _ ih =>
    cases shown with
    | cons line lines =>
      cases also with
      | cons copy copies => exact .cons (.json alike line copy) (ih lines copies)

end Event

theorem Origin.events_twins {first second : Origin} (hosts : first.hostname = second.hostname)
    (rules : List FirewallRule) : List.Forall₂ Event.Twins (first.events rules) (second.events rules) := by
  rw [Origin.events, Origin.events, List.forall₂_map_left_iff, List.forall₂_map_right_iff, List.forall₂_same]
  intro place _
  exact ⟨rfl, hosts, rfl⟩

/-- What the single pass of a tick comes to, and what it prints. -/
inductive Tick.PrintsOnce (config : CollectorConfig) (format : OutputFormat) (tick : Tick) :
    Except AgentError Unit → List String → Prop
  | failed {error : CollectError} (collected : (tick.events config).value = .error error) :
      PrintsOnce config format tick (.error (.pass config.table error)) []
  | missing (collected : (tick.events config).value = .ok none) : PrintsOnce config format tick (.ok ()) []
  | unwritten {events : List Event} {event : Event} (json : format = .json)
      (collected : (tick.events config).value = .ok (some events)) (member : event ∈ events)
      (early : event.header.timestamp.seconds < 0) : PrintsOnce config format tick (.error (.print .beforeEpoch)) []
  | lines {events : List Event} {lines : List String} (json : format = .json)
      (collected : (tick.events config).value = .ok (some events)) (each : List.Forall₂ Event.IsLine events lines) :
      PrintsOnce config format tick (.ok ()) lines
  | table {events : List Event} {text : String} (plaintext : format = .plaintext)
      (collected : (tick.events config).value = .ok (some events)) (drawn : Event.Drawn events text) :
      PrintsOnce config format tick (.ok ()) [text]

/-- No event of the tick's pass has a time before the epoch. -/
def Tick.Writable (config : CollectorConfig) (tick : Tick) : Prop :=
  ∀ events, (tick.events config).value = .ok (some events) → ∀ event ∈ events, 0 ≤ event.header.timestamp.seconds

theorem Tick.events_value (config : CollectorConfig) (tick : Tick) : (tick.events config).value =
    (Collector.collect tick.kernel.snapshot config).value.map (Option.map tick.origin.events) := by
  rw [Tick.events, Collector.events, Attempt.value_bind]
  cases (Collector.collect tick.kernel.snapshot config).value <;> rfl

/-- What the agent is told to repeat with the format JSON. -/
def CollectorConfig.repeated (config : CollectorConfig) : CollectorConfig :=
  { config with enabled := true, outputFormat := .json }

namespace Agent
open Attempt

variable {config : CollectorConfig} {format : OutputFormat} {tick : Tick}

theorem writable_of_clock (told : ∀ index, 0 ≤ (tick.origin.clock index).seconds) : tick.Writable config := by
  intro events collected
  have times : ∀ index, config.repeated.outputFormat.Tells (tick.origin.clock index) := told
  exact told_of_clock times collected

/-- What is done with the events of a single pass. -/
def present (format : OutputFormat) : Option (List Event) → Attempt AgentError Unit
  | none => return ()
  | some events =>
    match format with
    | .plaintext => Traced.print (Event.table events).text
    | .json => (Event.printJson events).mapError .print

theorem snapshot_eq (config : CollectorConfig) (format : OutputFormat) (tick : Tick) :
    snapshot tick.pass config format = (tick.events config).mapError (.pass config.table) >>= present format := by
  unfold snapshot
  congr
  funext events
  cases events <;> cases format <;> rfl

theorem snapshot_value : (snapshot tick.pass config format).value =
    (tick.events config).value.mapError (.pass config.table) >>= fun events => (present format events).value := by
  rw [snapshot_eq, value_bind, value_mapError]

theorem snapshot_printed : (snapshot tick.pass config format).printed =
    match (tick.events config).value with
    | .ok events => (present format events).printed
    | .error _ => [] := by
  have quiet : (tick.events config).Leaves Effect.IsQuiet := Collector.events_quiet (tick.kernel.snapshot_quiet _)
  -- What is printed is printed behind the collecting, which leaves requests and messages only.
  have silent := quiet.shows_nothing fun _ => Effect.IsQuiet.no_print
  rw [snapshot_eq, Attempt.printed, trace_bind, trace_mapError, List.filterMap_append, silent, value_mapError]
  cases (tick.events config).value <;> rfl

theorem present_json (events : List Event) :
    (present .json (some events)).value = (Event.printJson events).value.mapError .print ∧
      (present .json (some events)).printed = (Event.printJson events).printed :=
  ⟨rfl, congrArg (List.filterMap Effect.printed?) (trace_mapError _ _)⟩

theorem snapshot_made (config : CollectorConfig) (format : OutputFormat) (tick : Tick) : tick.PrintsOnce config format
    (snapshot tick.pass config format).value (snapshot tick.pass config format).printed := by
  rw [snapshot_value, snapshot_printed]
  cases collected : (tick.events config).value with
  | error error => exact .failed collected
  | ok found =>
    rw [mapError_ok, ok_bind]
    cases found with
    | none => exact .missing collected
    | some events =>
      cases format with
      | plaintext => exact .table rfl collected (Event.drawn_table events)
      | json =>
        obtain ⟨value, printed⟩ := present_json events
        dsimp only
        rw [value, printed]
        rcases Event.printJson_cases events with ⟨lines, each, done, shown⟩ | ⟨⟨event, member, early⟩, failed, nothing⟩
        · rw [done, shown]
          exact .lines rfl collected each
        · rw [failed, nothing]
          exact .unwritten rfl collected member early

theorem runPass_made (writable : tick.Writable config.repeated) {found : Option (List Event)}
    (collected : (tick.events config.repeated).value = .ok found) :
    (runPass tick.pass config.repeated).value = .ok () ∧
      tick.PrintsOnce config.repeated .json (.ok ()) (runPass tick.pass config.repeated).printed := by
  have concluded : conclude config.repeated (.ok found) = present .json found := by
    cases found <;> rfl
  have value : (runPass tick.pass config.repeated).value = (present .json found).value := by
    rw [runPass_value, collected, concluded]
  have printed : (runPass tick.pass config.repeated).printed = (present .json found).printed := by
    rw [Attempt.printed, runPass_shows fun _ => Effect.IsQuiet.no_print, collected, concluded]
    rfl
  rw [value, printed]
  cases found with
  | none => exact ⟨rfl, .missing collected⟩
  | some events =>
    obtain ⟨value, printed⟩ := present_json events
    rw [value, printed]
    rcases Event.printJson_cases events with ⟨lines, each, done, shown⟩ | ⟨⟨event, member, early⟩, -⟩
    · rw [done, shown]
      exact ⟨rfl, .lines rfl collected each⟩
    · exact absurd early (Int.not_lt.mpr (writable events collected event member))

theorem run_single {pass : Pass} (signal : Signal) (enabled : config.enabled = true)
    (done : (runPass pass config).value = .ok ()) :
    (run [pass] signal config).value = .ok () ∧
      (run [pass] signal config).printed = (runPass pass config).printed := by
  obtain ⟨value, trace⟩ := run_enabled signal enabled (List.forall_mem_singleton.mpr done)
  refine ⟨value, ?_⟩
  rw [Attempt.printed, trace, List.flatMap_singleton, List.cons_append, List.filterMap_cons, List.filterMap_append]
  exact List.append_nil _

theorem collect_of_snapshot (done : (snapshot tick.pass config format).value = .ok ()) :
    ∃ rules, (Collector.collect tick.kernel.snapshot config).value = .ok rules := by
  rw [snapshot_value, Tick.events_value] at done
  cases collected : (Collector.collect tick.kernel.snapshot config).value with
  | ok rules => exact ⟨rules, rfl⟩
  | error error =>
    rw [collected] at done
    cases done

theorem isLines_of_made {found : Option (List Event)} {lines : List String}
    (made : tick.PrintsOnce config .json (.ok ()) lines) (collected : (tick.events config).value = .ok found) :
    List.Forall₂ Event.IsLine (found.getD []) lines := by
  cases made with
  | missing none =>
    cases collected.symm.trans none
    exact .nil
  | lines json some each =>
    cases collected.symm.trans some
    exact each
  | table plaintext => cases plaintext

/-- A single pass prints the lines of all its events, or their table, or nothing: nothing if it fails, be it at the
first event or at the last or after all are collected, and nothing where there is no table. As JSON its lines are those
of a repeated pass that meets the same kernel, which tell of another pass at another time. -/
theorem snapshot_of_tick (config : CollectorConfig) (format : OutputFormat) (tick : Tick) (signal : Signal) :
    tick.PrintsOnce config format (snapshot tick.pass config format).value (snapshot tick.pass config format).printed ∧
    ((∃ error, (snapshot tick.pass config format).value = .error error) ∨ (tick.events config).value = .ok none →
      (snapshot tick.pass config format).printed = []) ∧
    ∀ other : Tick, other.kernel = tick.kernel → other.origin.hostname = tick.origin.hostname → other.Writable config →
      (snapshot tick.pass config .json).value = .ok () →
      (run [other.pass] signal config.repeated).value = .ok () ∧
        List.Forall₂ Event.TwinLines (snapshot tick.pass config .json).printed
          (run [other.pass] signal config.repeated).printed := by
  refine ⟨snapshot_made config format tick, ?_, ?_⟩
  · have made := snapshot_made config format tick
    rintro (⟨error, failed⟩ | missing)
    · rw [failed] at made
      generalize (snapshot tick.pass config format).printed = printed at made ⊢
      cases made <;> rfl
    · rw [snapshot_printed, missing]
      rfl
  · intro other kernels hosts writable done
    obtain ⟨rules, collected⟩ := collect_of_snapshot done
    -- Both passes collect the same rules, since collecting looks neither at the format nor at the switch.
    have own : (tick.events config).value = .ok (rules.map tick.origin.events) := by
      rw [Tick.events_value, collected]
      rfl
    have found : (other.events config.repeated).value = .ok (rules.map other.origin.events) := by
      have unmoved : Collector.collect other.kernel.snapshot config.repeated =
          Collector.collect other.kernel.snapshot config := rfl
      rw [Tick.events_value, unmoved, kernels, collected]
      rfl
    obtain ⟨ended, repeated⟩ := runPass_made writable found
    obtain ⟨stopped, printed⟩ := run_single signal rfl ended
    have made := snapshot_made config .json tick
    rw [done] at made
    have twins : List.Forall₂ Event.Twins ((rules.map tick.origin.events).getD [])
        ((rules.map other.origin.events).getD []) := by
      cases rules with
      | none => exact .nil
      | some rules => exact Origin.events_twins hosts.symm rules
    refine ⟨stopped, ?_⟩
    rw [printed]
    exact Event.twinLines_of_twins twins (isLines_of_made made own) (isLines_of_made repeated found)

/-- Two ticks that meet a kernel with one table, with other identifiers and at other times. -/
def loadedTwice : Tick × Tick :=
  let loaded : Kernel := .holding TableDraft.before.builtInfo TableDraft.before.builtEntries
  (⟨loaded, "host", .nil, fun _ => .epoch⟩, ⟨loaded, "host", ⟨1⟩, fun index => ⟨index, 5, by decide⟩⟩)

theorem snapshot_of_tick_loaded :
    let first := snapshot loadedTwice.1.pass .default .json
    let second := run [loadedTwice.2.pass] .interrupt CollectorConfig.default.repeated
    (loadedTwice.2.kernel = loadedTwice.1.kernel ∧
      loadedTwice.2.origin.hostname = loadedTwice.1.origin.hostname ∧ loadedTwice.2.Writable .default ∧
      first.value = .ok () ∧ first.printed.length = 3 ∧ second.value = .ok () ∧
      List.Forall₂ Event.TwinLines first.printed second.printed) ∧
    ∃ events text, (loadedTwice.1.events .default).value = .ok (some events) ∧ events.length = 3 ∧
      (snapshot loadedTwice.1.pass .default .plaintext).printed = [text] ∧ Event.Drawn events text := by
  constructor
  · have writable : loadedTwice.2.Writable .default := writable_of_clock fun index => Int.natCast_nonneg index
    have done : (snapshot loadedTwice.1.pass .default .json).value = .ok () := by decide +kernel
    have count : (snapshot loadedTwice.1.pass .default .json).printed.length = 3 := by decide +kernel
    obtain ⟨-, -, repeats⟩ := snapshot_of_tick .default .json loadedTwice.1 .interrupt
    obtain ⟨stopped, twins⟩ := repeats loadedTwice.2 rfl rfl writable done
    exact ⟨rfl, rfl, writable, done, count, stopped, twins⟩
  · obtain ⟨made, -⟩ := snapshot_of_tick .default .plaintext loadedTwice.1 .interrupt
    have done : (snapshot loadedTwice.1.pass .default .plaintext).value = .ok () := by decide +kernel
    have count : (loadedTwice.1.events .default).value.map (Option.map List.length) = .ok (some 3) := by
      decide +kernel
    rw [done] at made
    generalize (snapshot loadedTwice.1.pass .default .plaintext).printed = printed at made ⊢
    cases made with
    | missing none =>
      rw [none] at count
      cases count
    | lines json => cases json
    | @table events text _ collected drawn =>
      rw [collected] at count
      exact ⟨events, text, collected, Option.some.inj (Except.ok.inj count), rfl, drawn⟩

end Agent

end FilterWatch
