import FilterWatch.Collector
import FilterWatch.Proofs.Decoding
import Mathlib.Data.List.Basic

/-! A collecting pass accounts for every rule of the reported chains: it is reported under its
place in the chain, or a warning names that place. -/

namespace FilterWatch
open Proofs.Outcomes

namespace Collector
open Attempt

/-- The event of the rule at a place of a chain, with the texts that were read of it. -/
def eventOf (chain : Chain) (place : Nat) (decoded : DecodedRule) : FirewallRule where
  chain := chain.name
  priority := place
  direction := direction? chain.name
  action := (reportedAction decoded.action).1
  target := (reportedAction decoded.action).2
  sourceAddress := decoded.sourceAddress
  destinationAddress := decoded.destinationAddress
  sourcePort := decoded.sourcePort
  destinationPort := decoded.destinationPort
  protocol := decoded.protocol

/-- The event of a chain's policy, behind all rules and without any test. -/
def policyEvent (chain : Chain) (policy : Action) : FirewallRule where
  chain := chain.name
  priority := chain.rules.length
  direction := direction? chain.name
  action := (reportedAction (some policy)).1
  target := (reportedAction (some policy)).2
  sourceAddress := none
  destinationAddress := none
  sourcePort := none
  destinationPort := none
  protocol := none

/-- What reading the record at a place of a chain comes to. -/
def reading (table : Table) (chain : Chain) (record : Record) (place : Nat) : Except LayoutError DecodedRule :=
  (Rule.decode ⟨table, chain, place, record⟩).value

/-- The events of the rules that can be read, in order. -/
def ruleEvents (table : Table) (chain : Chain) : List FirewallRule :=
  chain.rules.zipIdx.filterMap fun (record, place) =>
    match reading table chain record place with
    | .ok decoded => some (eventOf chain place decoded)
    | .error _ => none

/-- The warnings about the rules that cannot be read, one for each, in order. -/
def ruleWarnings (table : Table) (chain : Chain) : List String :=
  chain.rules.zipIdx.filterMap fun (record, place) =>
    match reading table chain record place with
    | .ok _ => none
    | .error error => some s!"skipping rule {place} of chain {chain.name}: {error.message}"

/-- The events of a chain, that of its policy last. -/
def chainEvents (table : Table) (chain : Chain) : List FirewallRule :=
  ruleEvents table chain ++
    match table.policy chain with
    | .ok (some policy) => [policyEvent chain policy]
    | _ => []

variable {config : CollectorConfig} {table : Table} {chain : Chain}

theorem collectRule_value (lenient : config.abortOnError = false) (rule : Rule) :
    (collectRule config rule).value = .ok (match rule.decode.value with
      | .ok decoded => some (eventOf rule.chain rule.index decoded)
      | .error _ => none) := by
  rw [collectRule, value_bind, value_caught, ok_bind]
  cases read : rule.decode.value with
  | ok decoded =>
    obtain ⟨chain, index, _⟩ := Rule.decode_sound read
    simp only [value_pure, reportedRule, eventOf, chain, index]
  | error error =>
    simp only [lenient, Bool.false_eq_true, if_false]
    rfl

theorem collectRule_warnings (lenient : config.abortOnError = false) (rule : Rule) :
    (collectRule config rule).warnings = match rule.decode.value with
      | .ok _ => []
      | .error error => [s!"skipping rule {rule.index} of chain {rule.chain.name}: {error.message}"] := by
  rw [collectRule, warnings_bind, value_caught, warnings_caught, rule.decode_warnings]
  cases read : rule.decode.value with
  | ok decoded => rfl
  | error error =>
    simp only [lenient, Bool.false_eq_true, if_false]
    rfl

theorem rules_value (table : Table) (chain : Chain) (lenient : config.abortOnError = false) :
    ∃ events, Attempt.value ((table.rulesOf chain).mapM (collectRule config)) = .ok events ∧
      events.filterMap id = ruleEvents table chain := by
  rw [value_mapM]
  refine ⟨_, mapM_of_ok fun rule _ => collectRule_value lenient rule, ?_⟩
  rw [Table.rulesOf, List.map_map, List.filterMap_map]
  rfl

theorem rules_warnings (table : Table) (chain : Chain) (lenient : config.abortOnError = false) :
    Attempt.warnings ((table.rulesOf chain).mapM (collectRule config)) = ruleWarnings table chain := by
  rw [warnings_mapM_of_ok fun rule _ => ⟨_, collectRule_value lenient rule⟩, Table.rulesOf, List.flatMap_map,
    ruleWarnings, List.filterMap_eq_flatMap_toList]
  congr 1
  funext place
  rw [collectRule_warnings lenient]
  simp only [reading]
  cases (Rule.decode ⟨table, chain, place.2, place.1⟩).value <;> rfl

theorem collectChain_unreported (unreported : config.reports chain.name = false) :
    (collectChain config table chain).value = .ok [] ∧ (collectChain config table chain).warnings = [] := by
  simp only [collectChain, unreported]
  exact ⟨rfl, rfl⟩

theorem collectChain_reported (lenient : config.abortOnError = false) (reported : config.reports chain.name = true) :
    (collectChain config table chain).value =
        ((table.policy chain).mapError (.chain config.table)).map (fun _ => chainEvents table chain) ∧
      (collectChain config table chain).warnings = ruleWarnings table chain := by
  obtain ⟨events, read, kept⟩ := rules_value table chain lenient
  have warned := rules_warnings table chain lenient
  simp only [collectChain, reported, Bool.not_true, Bool.false_eq_true, if_false, value_bind, warnings_bind, read,
    warned, ok_bind, value_ofExcept, warnings_ofExcept, kept, chainEvents]
  cases table.policy chain with
  | error error => exact ⟨rfl, by simp [mapError_error]⟩
  | ok policy => cases policy <;> exact ⟨rfl, by simp [mapError_ok, warnings_pure]⟩

theorem flatMap_chosen (choose : α → Bool) {f g : α → List β} {items : List α}
    (kept : ∀ item ∈ items, choose item = true → f item = g item)
    (left : ∀ item ∈ items, choose item = false → f item = []) :
    items.flatMap f = (items.filter choose).flatMap g := by
  induction items with
  | nil => rfl
  | cons item rest ih =>
    have others := ih (fun other member => kept other (by simp [member]))
      fun other member => left other (by simp [member])
    cases chosen : choose item with
    | true =>
      rw [List.filter_cons_of_pos chosen, List.flatMap_cons, List.flatMap_cons, others, kept item (by simp) chosen]
    | false =>
      rw [List.filter_cons_of_neg (by simp [chosen]), List.flatMap_cons, others, left item (by simp) chosen,
        List.nil_append]

variable (config table) in
/-- The chains of which the rules are to be reported, in order. -/
def reported : List Chain := table.chains.filter (config.reports ·.name)

/-- The chains that are not reported have no part in what a pass comes to. -/
theorem collectTable_value : (collectTable config table).value =
    ((reported config table).mapM fun chain => (collectChain config table chain).value).map List.flatten := by
  rw [reported, ← mapM_chosen _ fun _ _ unwanted => (collectChain_unreported unwanted).1, collectTable, value_bind,
    value_mapM]
  cases table.chains.mapM fun chain => (collectChain config table chain).value <;> rfl

theorem collectChain_of_decided (lenient : config.abortOnError = false)
    (decided : config.reports chain.name = true → ∃ policy, table.policy chain = .ok policy) :
    (collectChain config table chain).value =
      .ok (if config.reports chain.name then chainEvents table chain else []) := by
  cases wanted : config.reports chain.name with
  | true =>
    obtain ⟨policy, found⟩ := decided wanted
    rw [(collectChain_reported lenient wanted).1, found]
    rfl
  | false => exact (collectChain_unreported wanted).1

theorem warnings_of_chains (lenient : config.abortOnError = false) (chains : List Chain) :
    (chains.flatMap fun chain => (collectChain config table chain).warnings) =
      (chains.filter (config.reports ·.name)).flatMap (ruleWarnings table) :=
  flatMap_chosen _ (fun _ _ wanted => (collectChain_reported lenient wanted).2)
    fun _ _ unwanted => (collectChain_unreported unwanted).2

theorem collectTable_of_decided (lenient : config.abortOnError = false)
    (decided : ∀ chain ∈ reported config table, ∃ policy, table.policy chain = .ok policy) :
    (collectTable config table).value = .ok ((reported config table).flatMap (chainEvents table)) ∧
      (collectTable config table).warnings = (reported config table).flatMap (ruleWarnings table) := by
  have each : ∀ chain ∈ table.chains, (collectChain config table chain).value =
      .ok (if config.reports chain.name then chainEvents table chain else []) := fun chain member =>
    collectChain_of_decided lenient fun wanted => decided chain (List.mem_filter.mpr ⟨member, wanted⟩)
  constructor
  · rw [collectTable, value_bind, value_mapM, mapM_of_ok each, ok_bind, ← List.flatMap_def]
    refine congrArg Except.ok (flatMap_chosen _ ?_ ?_)
    · intro chain _ wanted
      rw [if_pos wanted]
    · intro chain _ unwanted
      rw [unwanted]
      rfl
  · rw [collectTable, warnings_bind, value_mapM, mapM_of_ok each,
      warnings_mapM_of_ok fun chain member => ⟨_, each chain member⟩, warnings_of_chains lenient]
    exact List.append_nil _

theorem eq_of_mem_chainEvents {event : FirewallRule} (member : event ∈ chainEvents table chain) :
    (∃ place decoded, event = eventOf chain place decoded) ∨ ∃ policy, event = policyEvent chain policy := by
  rcases List.mem_append.mp member with rule | policy
  · obtain ⟨⟨record, place⟩, _, told⟩ := List.mem_filterMap.mp rule
    simp only at told
    split at told
    · cases told
      exact .inl ⟨_, _, rfl⟩
    · cases told
  · split at policy
    · exact .inr ⟨_, List.mem_singleton.mp policy⟩
    · cases policy

theorem chain_of_chainEvents (table : Table) (chain : Chain) :
    ∀ event ∈ chainEvents table chain, event.chain = chain.name := by
  intro event member
  rcases eq_of_mem_chainEvents member with ⟨_, _, rfl⟩ | ⟨_, rfl⟩
  · rfl
  · rfl

variable (config) in
theorem collect_without_table {source : TableSource}
    (missing : ∀ table, (source config.table).value ≠ .ok (some table)) :
    (collect source config).value =
        ((source config.table).value.mapError (.snapshot config.table)).map (fun _ => none) ∧
      (collect source config).warnings = (source config.table).warnings := by
  simp only [collect, value_bind, warnings_bind, value_mapError, warnings_mapError]
  rcases answered : (source config.table).value with error | _ | table
  · exact ⟨rfl, List.append_nil _⟩
  · exact ⟨rfl, List.append_nil _⟩
  · exact absurd answered (missing table)

variable (config) in
theorem collect_of_table {source : TableSource} (answered : (source config.table).value = .ok (some table)) :
    (collect source config).value = (collectTable config table).value.map some ∧
      (collect source config).warnings = (source config.table).warnings ++ (collectTable config table).warnings := by
  constructor
  · simp only [collect, value_bind, value_mapError, answered, mapError_ok, ok_bind]
    cases (collectTable config table).value <;> rfl
  · simp only [collect, warnings_bind, value_mapError, warnings_mapError, answered, mapError_ok]
    cases (collectTable config table).value <;> simp [warnings_log, warnings_pure, value_log]

/-- Sources that log the same lead to the same pass, if the same is collected from their tables. -/
theorem collect_of_alike {source other : TableSource} {first second : Table}
    (log : (source config.table).trace = (other config.table).trace)
    (read : (source config.table).value = .ok (some first)) (otherRead : (other config.table).value = .ok (some second))
    (alike : collectTable config first = collectTable config second) : collect source config = collect other config := by
  refine Attempt.ext ?_ ?_
  · simp only [collect, value_bind, value_mapError, read, otherRead, mapError_ok, ok_bind, alike]
  · simp only [collect, trace_bind, value_mapError, trace_mapError, read, otherRead, mapError_ok, alike, log]

private theorem collect_told {source : TableSource} {outcome : Except CollectError (List FirewallRule)}
    (told : ∀ cause, outcome ≠ .error (.snapshot config.table cause)) :
    (collect source config).value = outcome.map some ↔
      ∃ table, (source config.table).value = .ok (some table) ∧ (collectTable config table).value = outcome := by
  by_cases there : ∃ table, (source config.table).value = .ok (some table)
  · obtain ⟨table, answered⟩ := there
    rw [(collect_of_table config answered).1]
    constructor
    · intro same
      obtain ⟨error, failed, ended⟩ | ⟨events, other, collected, done, alike⟩ := map_eq_map same
      · exact ⟨table, answered, failed.trans ended.symm⟩
      · exact ⟨table, answered, by rw [collected, done, Option.some.inj alike]⟩
    · rintro ⟨other, found, same⟩
      cases answered.symm.trans found
      rw [same]
  · rw [(collect_without_table config fun table answered => there ⟨table, answered⟩).1]
    constructor
    · intro same
      cases outcome with
      | error error =>
        obtain ⟨cause, _, alike⟩ := mapError_eq_error.mp (map_eq_error.mp same)
        exact absurd (congrArg Except.error alike.symm) (told cause)
      | ok events =>
        obtain ⟨_, _, alike⟩ := map_eq_ok.mp same
        cases alike
    · rintro ⟨table, answered, _⟩
      exact absurd ⟨table, answered⟩ there

theorem collect_error {source : TableSource} {error : CollectError}
    (told : ∀ cause, error ≠ .snapshot config.table cause) :
    (collect source config).value = .error error ↔
      ∃ table, (source config.table).value = .ok (some table) ∧ (collectTable config table).value = .error error :=
  collect_told fun cause same => told cause (Except.error.inj same)

theorem collect_some {source : TableSource} {events : List FirewallRule} :
    (collect source config).value = .ok (some events) ↔
      ∃ table, (source config.table).value = .ok (some table) ∧ (collectTable config table).value = .ok events := by
  have told : ∀ cause, Except.ok events ≠ .error (CollectError.snapshot config.table cause) := by simp
  exact collect_told told

/-- A rule without a target and one that accepts, in a chain that drops. -/
def partlyReadable : Table where
  info := {
    name := "filter", validHooks := 2, hookEntry := .fill 0, underflow := .fill 264, entryCount := 4, size := 0 }
  chains := [{
    name := "INPUT"
    kind := .builtin .input (standard 264 0xFF)
    start := 0
    rules := [⟨0, Bytes.zeros 112, 112, by decide, by decide⟩, standard 112 0xFE] }]
where
  standard (offset : Nat) (code : UInt8) : Record :=
    ⟨offset, Bytes.zeros 112 ++ [40] ++ Bytes.zeros 31 ++ [code, 0xFF, 0xFF, 0xFF] ++ Bytes.zeros 4, 112,
      by decide, by simp [Bytes.zeros]⟩

end Collector

end FilterWatch
