import FilterWatch.Agent
import FilterWatch.Proofs.QuietCollecting
import FilterWatch.Proofs.SwitchedTables
import Mathlib.Data.List.Forall2

/-! Passes that are repeated until a signal comes. What is printed is the whole output of every pass that succeeds, in
order; a pass that fails leaves one error in the log, and none has an effect on another. -/

namespace FilterWatch
open Proofs.Outcomes

/-- The times of which a format can tell: a text those of the calendar, JSON those from the epoch on. -/
def OutputFormat.Tells : OutputFormat → Time → Prop
  | .plaintext, time => time.text?.isSome = true
  | .json, time => 0 ≤ time.seconds

/-- All formats tell of the time from the epoch to the last of February of the year 262000. -/
theorem OutputFormat.tells_of_bounds (format : OutputFormat) {time : Time} (since : 0 ≤ time.seconds)
    (before : time.seconds < 8205759388800) : format.Tells time := by
  cases format with
  | json => exact since
  | plaintext =>
    have day : time.seconds / 86400 + 719468 < 655 * 146097 := by omega
    have within : -262143 ≤ (Date.ofDays (time.seconds / 86400)).year ∧
        (Date.ofDays (time.seconds / 86400)).year ≤ 262142 := by
      simp only [Date.ofDays]
      split <;> omega
    simp only [Tells, Time.text?, within, and_self, if_true, Option.isSome_some]

namespace Event
open Attempt

/-- What a format prints of an event, with the line break. -/
def lineOf? (format : OutputFormat) (event : Event) : Option String :=
  match format with
  | .plaintext => event.header.timestamp.text?.map fun time =>
      "[" ++ time ++ " \x1b[1;30;46mEVENT\x1b[0m " ++ event.header.hostname ++ "] [" ++ event.header.source ++
        "] Firewall Rule " ++ event.rule.text ++ "\n"
  | .json => event.json?.map (· ++ "\n")

variable {format : OutputFormat} {events : List Event} {lines : List String}

theorem lineOf?_plaintext (event : Event) : lineOf? .plaintext event = event.line? true := by
  have word : " \x1b[1;30;46mEVENT\x1b[0m " = " " ++ ("\x1b[1;30;46mEVENT\x1b[0m" ++ " ") := rfl
  have behind : "] Firewall Rule " = "] " ++ "Firewall Rule " := rfl
  simp only [lineOf?, line?, if_true, word, behind, String.append_assoc]
  rfl

theorem exists_line {event : Event} (told : format.Tells event.header.timestamp) :
    ∃ line, lineOf? format event = some line := by
  apply Option.isSome_iff_exists.mp
  cases format with
  | plaintext =>
    rw [lineOf?, Option.isSome_map]
    exact told
  | json =>
    rw [lineOf?, json?, if_neg (Int.not_lt.mpr told)]
    rfl

theorem exists_lines (told : ∀ event ∈ events, format.Tells event.header.timestamp) :
    ∃ lines : List String, events.map (lineOf? format) = lines.map some := by
  induction events with
  | nil => exact ⟨[], rfl⟩
  | cons event rest ih =>
    obtain ⟨line, first⟩ := exists_line (told event (by simp))
    obtain ⟨lines, others⟩ := ih fun other member => told other (by simp [member])
    exact ⟨line :: lines, by rw [List.map_cons, first, others, List.map_cons]⟩

theorem printText_of_lines (each : events.map (lineOf? .plaintext) = lines.map some) :
    (printText events).value = .ok () ∧ (printText events).trace = lines.map .print := by
  induction events generalizing lines with
  | nil =>
    obtain rfl := List.map_eq_nil_iff.mp each.symm
    exact ⟨rfl, rfl⟩
  | cons event rest ih =>
    obtain ⟨line, others, rfl, first, remaining⟩ := List.map_eq_cons_iff.mp each.symm
    obtain ⟨value, trace⟩ := ih remaining.symm
    have shown : event.line? true = some line := (lineOf?_plaintext event).symm.trans first.symm
    have unfolded : printText (event :: rest) =
        (Traced.print line : Attempt PrintError Unit) >>= fun _ => printText rest := by
      simp only [printText, List.forM_eq_forM, List.forM_cons, shown]
    rw [unfolded, value_bind, trace_bind]
    refine ⟨value, ?_⟩
    show [.print line] ++ (printText rest).trace = _
    rw [trace]
    rfl

theorem jsonLines_of_lines (each : events.map (lineOf? .json) = lines.map some) :
    ∃ texts, jsonLines events = .ok texts ∧ lines = texts.map (· ++ "\n") := by
  induction events generalizing lines with
  | nil =>
    obtain rfl := List.map_eq_nil_iff.mp each.symm
    exact ⟨[], rfl, rfl⟩
  | cons event rest ih =>
    obtain ⟨line, others, rfl, first, remaining⟩ := List.map_eq_cons_iff.mp each.symm
    obtain ⟨texts, read, rfl⟩ := ih remaining.symm
    obtain ⟨text, shown, rfl⟩ := Option.map_eq_some_iff.mp first.symm
    refine ⟨text :: texts, ?_, rfl⟩
    simp only [jsonLines, List.mapM_cons, shown] at read ⊢
    rw [ok_bind, read]
    rfl

theorem print_of_lines (each : events.map (lineOf? format) = lines.map some) :
    (print events format).value = .ok () ∧ (print events format).trace = lines.map .print := by
  cases format with
  | plaintext => exact printText_of_lines each
  | json =>
    obtain ⟨texts, read, rfl⟩ := jsonLines_of_lines each
    have printed (text : String) : Attempt.value (Traced.print (text ++ "\n") : Attempt PrintError Unit) = .ok () := rfl
    obtain ⟨value, trace⟩ := forM_of_ok fun text (_ : text ∈ texts) => printed text
    rw [print, printJson, read]
    refine ⟨value, trace.trans ?_⟩
    rw [List.map_map, List.map_eq_flatMap]
    rfl

end Event

namespace Tick
open Attempt

/-- The events of a tick's pass, which nothing but the tick and the configuration decide. -/
def events (config : CollectorConfig) (tick : Tick) : Attempt CollectError (Option (List Event)) :=
  Collector.events tick.kernel.snapshot config tick.origin

/-- What a tick adds to the output: all events of its pass, or nothing. -/
inductive Prints (config : CollectorConfig) (tick : Tick) : String → Prop
  | shown {events : List Event} {lines : List String} (collected : (tick.events config).value = .ok (some events))
      (each : events.map (Event.lineOf? config.outputFormat) = lines.map some) : Prints config tick (String.join lines)
  | missing (collected : (tick.events config).value = .ok none) : Prints config tick ""
  | failed {error : CollectError} (collected : (tick.events config).value = .error error) : Prints config tick ""

/-- The error that a tick leaves in the log, if its pass fails. -/
def complaint? (config : CollectorConfig) (tick : Tick) : Option String :=
  match (tick.events config).value with
  | .error error => some s!"Collection pass failed: {error.failure.report}"
  | .ok _ => none

end Tick

namespace Agent
open Attempt

theorem serve_of_ticks (config : CollectorConfig) (ticks : List Tick) (signal : Signal) (later : List Occurrence) :
    serve config (ticks.map .tick ++ .signal signal :: later) = (do
      (ticks.map Tick.pass).forM fun pass => runPass pass config
      stop signal) := by
  rw [List.forM_eq_forM]
  induction ticks with
  | nil => rfl
  | cons tick rest ih =>
    simp only [List.map_cons, List.cons_append, serve, List.forM_cons, bind_assoc, ih]

theorem watch_of_ticks (config : CollectorConfig) (ticks : List Tick) (signal : Signal) (later : List Occurrence) :
    watch (ticks.map .tick ++ .signal signal :: later) config = run (ticks.map Tick.pass) signal config := by
  simp only [watch, run, serve_of_ticks]

/-- What a pass does, whatever its outcome. -/
structure PassMade (config : CollectorConfig) (tick : Tick) : Prop where
  done : (runPass tick.pass config).value = .ok ()
  prints : tick.Prints config (String.join (runPass tick.pass config).printed)
  asks : (runPass tick.pass config).requests = (tick.kernel.snapshot config.table).requests
  complains : (runPass tick.pass config).errors = (tick.complaint? config).toList

variable {config : CollectorConfig} {tick : Tick}

theorem told_of_clock (told : ∀ index, config.outputFormat.Tells (tick.origin.clock index)) {events : List Event}
    (collected : (tick.events config).value = .ok (some events)) :
    ∀ event ∈ events, config.outputFormat.Tells event.header.timestamp := by
  rw [Tick.events, Collector.events, value_bind] at collected
  obtain ⟨rules, _, signed⟩ := bind_eq_ok.mp collected
  obtain ⟨rules, rfl, rfl⟩ := Option.map_eq_some_iff.mp (Except.ok.inj signed)
  intro event member
  obtain ⟨⟨rule, index⟩, _, rfl⟩ := List.mem_map.mp member
  exact told index

/-- What the outcome of collecting leads to. -/
def conclude (config : CollectorConfig) : Except CollectError (Option (List Event)) → Attempt AgentError Unit
  | .ok none => return ()
  | .ok (some events) => (Event.print events config.outputFormat).mapError .print
  | .error error => error.failure.log "Collection pass failed"

theorem runPass_eq (config : CollectorConfig) (tick : Tick) :
    runPass tick.pass config = (tick.events config).caught >>= conclude config := rfl

theorem runPass_value : (runPass tick.pass config).value = (conclude config (tick.events config).value).value := by
  rw [runPass_eq, value_bind, value_caught, ok_bind]

theorem runPass_trace : (runPass tick.pass config).trace =
    (tick.events config).trace ++ (conclude config (tick.events config).value).trace := by
  rw [runPass_eq, trace_bind, trace_caught, value_caught]

/-- What collecting cannot leave behind comes from its outcome. -/
theorem runPass_shows {shown? : Effect → Option β} (hidden : ∀ effect : Effect, effect.IsQuiet → shown? effect = none) :
    (runPass tick.pass config).trace.filterMap shown? =
      (conclude config (tick.events config).value).trace.filterMap shown? := by
  have quiet : (tick.events config).Leaves Effect.IsQuiet := Collector.events_quiet (tick.kernel.snapshot_quiet _)
  rw [runPass_trace, List.filterMap_append, quiet.shows_nothing hidden]
  rfl

theorem runPass_requests {outcome : Except CollectError (Option (List Event))}
    (unasked : (conclude config outcome).requests = []) (collected : (tick.events config).value = outcome) :
    (runPass tick.pass config).requests = (tick.kernel.snapshot config.table).requests := by
  have asked : (tick.events config).requests = (tick.kernel.snapshot config.table).requests := Collector.events_requests
  rw [runPass_eq, requests_bind, requests_caught, value_caught, collected, asked]
  exact (congrArg (_ ++ ·) unasked).trans (List.append_nil _)

theorem conclude_events {events : List Event} {lines : List String}
    (each : events.map (Event.lineOf? config.outputFormat) = lines.map some) :
    (conclude config (.ok (some events))).value = .ok () ∧
      (conclude config (.ok (some events))).trace = lines.map .print := by
  obtain ⟨done, shown⟩ := Event.print_of_lines each
  refine ⟨?_, (trace_mapError _ _).trans shown⟩
  rw [conclude, value_mapError, done]
  rfl

theorem passMade (told : ∀ index, config.outputFormat.Tells (tick.origin.clock index)) : PassMade config tick := by
  -- Collecting is quiet, so that all but the requests comes from what is done with its outcome.
  have printed : (runPass tick.pass config).printed = (conclude config (tick.events config).value).printed :=
    runPass_shows fun _ => Effect.IsQuiet.no_print
  have complains : (runPass tick.pass config).errors = (conclude config (tick.events config).value).errors :=
    runPass_shows fun _ => Effect.IsQuiet.no_error
  cases collected : (tick.events config).value with
  | error error =>
    have own : tick.complaint? config = some s!"Collection pass failed: {error.failure.report}" := by
      rw [Tick.complaint?, collected]
    rw [collected] at printed complains
    exact {
      done := by rw [runPass_value, collected]; rfl
      prints := by rw [printed]; exact .failed collected
      asks := runPass_requests rfl collected
      complains := by rw [complains, own]; rfl }
  | ok outcome =>
    have content : tick.complaint? config = none := by rw [Tick.complaint?, collected]
    rw [collected] at printed complains
    cases outcome with
    | none =>
      exact {
        done := by rw [runPass_value, collected]; rfl
        prints := by rw [printed]; exact .missing collected
        asks := runPass_requests rfl collected
        complains := by rw [complains, content]; rfl }
    | some events =>
      obtain ⟨lines, each⟩ := Event.exists_lines (told_of_clock told collected)
      obtain ⟨done, effects⟩ := conclude_events each
      have whole : (runPass tick.pass config).printed = lines := by
        rw [printed, Attempt.printed, effects, List.filterMap_map]
        exact List.filterMap_some
      have nothing {β : Type} (shown? : Effect → Option β) (hidden : ∀ text, shown? (.print text) = none) :
          (conclude config (.ok (some events))).trace.filterMap shown? = [] := by
        rw [effects, List.filterMap_map]
        exact List.filterMap_eq_nil_iff.mpr fun text _ => hidden text
      exact {
        done := by rw [runPass_value, collected, done]
        prints := by rw [whole]; exact .shown collected each
        asks := runPass_requests (nothing _ fun _ => rfl) collected
        complains := by rw [complains, content]; exact nothing _ fun _ => rfl }

/-- Passes of which each comes to its end are all made, and the signal ends the agent. -/
theorem run_enabled {passes : List Pass} (signal : Signal) (enabled : config.enabled = true)
    (each : ∀ pass ∈ passes, (runPass pass config).value = .ok ()) :
    (run passes signal config).value = .ok () ∧ (run passes signal config).trace =
      .log ⟨.info, s!"Reporting rules of table '{config.table}' every {config.interval}s"⟩ ::
        (passes.flatMap fun pass => (runPass pass config).trace) ++
        [.log ⟨.trace, s!"{signal.name} received"⟩, .log ⟨.info, "Terminating Bastion Agent..."⟩] := by
  obtain ⟨value, trace⟩ := forM_of_ok each
  have announced : announce config = ⟨true, [.log ⟨.info,
      s!"Reporting rules of table '{config.table}' every {config.interval}s"⟩]⟩ := by
    simp only [announce, enabled]
    rfl
  let made : Attempt AgentError Unit := do
    passes.forM fun pass => runPass pass config
    stop signal
  have ended : made.value = .ok () := by
    rw [value_bind, value]
    rfl
  have left : made.trace = (passes.flatMap fun pass => (runPass pass config).trace) ++
      [.log ⟨.trace, s!"{signal.name} received"⟩, .log ⟨.info, "Terminating Bastion Agent..."⟩] := by
    rw [trace_bind, value, trace]
    rfl
  rw [run, announced]
  exact ⟨ended, congrArg (_ :: ·) left⟩

theorem run_disabled (passes : List Pass) (signal : Signal) (disabled : config.enabled = false) :
    (run passes signal config).value = .ok () ∧
      (run passes signal config).trace = [.log ⟨.info, s!"{Collector.name} is disabled, nothing to do"⟩] := by
  have announced : announce config = ⟨false, [.log ⟨.info, s!"{Collector.name} is disabled, nothing to do"⟩]⟩ := by
    simp only [announce, disabled]
    rfl
  rw [run, announced]
  exact ⟨rfl, rfl⟩

theorem join_flatMap (f : α → List String) (items : List α) :
    String.join (items.flatMap f) = String.join (items.map fun item => String.join (f item)) := by
  induction items with
  | nil => rfl
  | cons item rest ih => rw [List.flatMap_cons, String.join_append, ih, List.map_cons, String.join_cons]

/-- A disabled agent asks the kernel for nothing and prints nothing. An enabled one makes one snapshot at every tick up
to the signal, however the passes before came out. Its output is the one of all passes in order, and its errors
are those of the passes that fail. -/
theorem run_of_ticks (config : CollectorConfig) (ticks : List Tick) (signal : Signal) (later : List Occurrence) :
    watch (ticks.map .tick ++ .signal signal :: later) config = run (ticks.map Tick.pass) signal config ∧
    (config.enabled = false →
      (run (ticks.map Tick.pass) signal config).value = .ok () ∧
      (run (ticks.map Tick.pass) signal config).requests = [] ∧
      (run (ticks.map Tick.pass) signal config).outcome.output = "") ∧
    (config.enabled = true → (∀ tick ∈ ticks, ∀ index, config.outputFormat.Tells (tick.origin.clock index)) →
      (run (ticks.map Tick.pass) signal config).value = .ok () ∧
      (run (ticks.map Tick.pass) signal config).requests =
        (ticks.flatMap fun tick => (tick.kernel.snapshot config.table).requests) ∧
      (run (ticks.map Tick.pass) signal config).errors = ticks.filterMap (Tick.complaint? config) ∧
      ∃ texts, List.Forall₂ (Tick.Prints config) ticks texts ∧
        (run (ticks.map Tick.pass) signal config).outcome.output = String.join texts) := by
  refine ⟨watch_of_ticks config ticks signal later, fun disabled => ?_, fun enabled told => ?_⟩
  · obtain ⟨value, trace⟩ := run_disabled (ticks.map Tick.pass) signal disabled
    refine ⟨value, ?_, ?_⟩
    · exact congrArg (List.filterMap Effect.request?) trace
    · exact congrArg (fun trace => String.join (trace.filterMap Effect.printed?)) trace
  · have made : ∀ tick ∈ ticks, PassMade config tick := fun tick member => passMade (told tick member)
    have each : ∀ pass ∈ ticks.map Tick.pass, (runPass pass config).value = .ok () := by
      intro pass member
      obtain ⟨tick, inside, rfl⟩ := List.mem_map.mp member
      exact (made tick inside).done
    obtain ⟨value, trace⟩ := run_enabled signal enabled each
    rw [List.flatMap_map] at trace
    -- Around the passes the agent leaves messages only, and none of them is an error.
    have left {β : Type} (shown? : Effect → Option β) (hidden : ∀ level text, level ≠ .error →
        shown? (.log ⟨level, text⟩) = none) : (run (ticks.map Tick.pass) signal config).trace.filterMap shown? =
        ticks.flatMap fun tick => (runPass tick.pass config).trace.filterMap shown? := by
      simp only [trace, List.cons_append, List.filterMap_cons, List.filterMap_append, List.filterMap_flatMap]
      rw [hidden .info _ nofun, hidden .trace _ nofun, hidden .info _ nofun]
      exact List.append_nil _
    refine ⟨value, ?_, ?_, ticks.map fun tick => String.join (runPass tick.pass config).printed, ?_, ?_⟩
    · refine (left Effect.request? fun _ _ _ => rfl).trans ?_
      exact List.flatMap_congr fun tick member => (made tick member).asks
    · refine (left (Effect.textAt? .error) fun _ _ other => if_neg other).trans ?_
      rw [List.filterMap_eq_flatMap_toList]
      exact List.flatMap_congr fun tick member => (made tick member).complains
    · rw [List.forall₂_map_right_iff, List.forall₂_same]
      exact fun tick member => (made tick member).prints
    · exact (congrArg String.join (left Effect.printed? fun _ _ _ => rfl)).trans (join_flatMap _ _)

/-- The kernel at three ticks: it has no packet filter, it has one without the table, and it holds the table. -/
def recovering : List Tick :=
  let origin : Origin := ⟨"host", Uuid.nil, fun _ => .epoch⟩
  let unloaded : Kernel := ⟨none, fun _ => .refused .noEntry, fun _ => .refused .noEntry⟩
  let loaded : Kernel := .holding TableDraft.before.builtInfo TableDraft.before.builtEntries
  [⟨.absent, origin⟩, ⟨unloaded, origin⟩, ⟨loaded, origin⟩]

/-- A pass that fails and one without a table stand before a pass with three events, and one error is logged. -/
theorem run_of_ticks_recovering :
    let agent := run (recovering.map Tick.pass) .terminate .default
    agent.value = .ok () ∧
    agent.errors = ["Collection pass failed: taking a snapshot of table 'filter'\n\nCaused by:\n" ++
      "    0: opening raw socket\n    1: EAFNOSUPPORT: Address family not supported by protocol"] ∧
    (recovering.map fun tick => (tick.events .default).value.toOption.map (Option.map List.length)) =
      [none, some none, some (some 3)] ∧
    ∃ texts, List.Forall₂ (Tick.Prints .default) recovering texts ∧ agent.outcome.output = String.join texts := by
  have told : ∀ tick ∈ recovering, ∀ index, OutputFormat.plaintext.Tells (tick.origin.clock index) := by
    intro tick member index
    have origin : tick.origin.clock index = .epoch := by
      simp only [recovering, List.mem_cons, List.not_mem_nil, or_false] at member
      rcases member with rfl | rfl | rfl <;> rfl
    rw [origin]
    exact OutputFormat.tells_of_bounds _ (by decide) (by decide)
  obtain ⟨value, _, errors, output⟩ := (run_of_ticks .default recovering .terminate []).2.2 rfl told
  refine ⟨value, errors.trans ?_, ?_, output⟩
  · decide +kernel
  · decide +kernel

end Agent

end FilterWatch
