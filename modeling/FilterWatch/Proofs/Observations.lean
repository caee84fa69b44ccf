import FilterWatch.Proofs.Accounts
import FilterWatch.Collector
import FilterWatch.Walk
import FilterWatch.Proofs.Attempts
import FilterWatch.Proofs.ClearedTables
import FilterWatch.Proofs.SourceAgreement

/-! Everything that a walk over a table can show, and that none of it depends on the bytes that no one
reads. Neither does a collecting pass, its log included. -/

namespace FilterWatch
open Proofs.Outcomes

structure Record.Reading where
  offset : Nat
  size : Nat
  targetOffset : Nat
  address : Side → Except LayoutError Address
  mask : Side → Except LayoutError Address
  addressInverted : Side → Except LayoutError Bool
  protocol : Except LayoutError UInt16
  protocolInverted : Except LayoutError Bool
  isGoto : Except LayoutError Bool
  matchWalk : MatchWalk
  target : Except LayoutError (Option Target)

def Record.reading (record : Record) : Record.Reading where
  offset := record.offset
  size := record.size
  targetOffset := record.targetOffset
  address := record.address
  mask := record.mask
  addressInverted := record.addressInverted
  protocol := record.protocol
  protocolInverted := record.protocolInverted
  isGoto := record.isGoto
  matchWalk := record.matchWalk
  target := record.target

/-- What can be read of a rule, with the messages that some of it logs. -/
structure Rule.Reading where
  chain : String
  index : Nat
  record : Record.Reading
  address : Side → Except LayoutError (Option String)
  port : Side → Attempt LayoutError (Option String)
  protocol : Except LayoutError (Option String)
  target : Except LayoutError (Option String)
  action : Except LayoutError (Option Action)
  decoded : Attempt LayoutError DecodedRule

def Rule.reading (rule : Rule) : Rule.Reading where
  chain := rule.chain.name
  index := rule.index
  record := rule.record.reading
  address := rule.address
  port := rule.port
  protocol := rule.protocol
  target := rule.target
  action := rule.action
  decoded := rule.decode

structure RuleWalk.Reading where
  progress : Progress
  length : Nat
  index : Except LayoutError Nat
  rule : Except LayoutError Rule.Reading

def RuleWalk.reading (walk : RuleWalk) : RuleWalk.Reading where
  progress := walk.cursor.progress
  length := walk.length
  index := walk.index
  rule := walk.rule.map Rule.reading

/-- What can be read where a walk stands, of the chain and of its rules if they are open. -/
structure Walk.Reading where
  info : TableInfo
  progress : Progress
  name : Except LayoutError String
  hook : Except LayoutError (Option Hook)
  policy : Except LayoutError (Option Action)
  rules : Option RuleWalk.Reading

def Walk.reading (walk : Walk) : Walk.Reading where
  info := walk.table.info
  progress := walk.cursor.progress
  name := walk.chain.map Chain.name
  hook := walk.chain.map Chain.hook?
  policy := walk.chain >>= walk.table.policy
  rules := walk.rules.map RuleWalk.reading

inductive Walk.Move
  | advance
  | openRules
  | closeRules
  | advanceRules
  deriving DecidableEq, Repr

namespace Walk

def move (walk : Walk) : Move → Walk
  | .advance => walk.advance
  | .openRules => walk.openRules
  | .closeRules => walk.closeRules
  | .advanceRules => walk.advanceRules

/-- What a walk over the whole table shows after some moves. -/
def shown (table : Table) (moves : List Move) : Reading := (moves.foldl move (start table)).reading

end Walk

theorem Record.cleared_reading (record : Record) : record.cleared.reading = record.reading := by
  simp only [reading, cleared_targetOffset, cleared_size, funext record.cleared_address, funext record.cleared_mask,
    funext record.cleared_addressInverted, cleared_protocol, cleared_protocolInverted, cleared_isGoto,
    cleared_matchWalk, cleared_target]
  rfl

namespace Rule

def cleared (rule : Rule) : Rule where
  table := rule.table.cleared
  chain := rule.chain.cleared
  index := rule.index
  record := rule.record.cleared

variable (rule : Rule)

theorem cleared_address (side : Side) : rule.cleared.address side = rule.address side := by
  have header : rule.cleared.headerTest side = rule.headerTest side := by
    simp only [headerTest, cleared, Record.cleared_address, Record.cleared_mask, Record.cleared_addressInverted]
  have walk : rule.cleared.record.matchWalk = rule.record.matchWalk := rule.record.cleared_matchWalk
  rw [address, addressTest, walk, header]
  rfl

theorem cleared_port (side : Side) : rule.cleared.port side = rule.port side := by
  have walk : rule.cleared.record.matchWalk = rule.record.matchWalk := rule.record.cleared_matchWalk
  rw [port, portTest, walk]
  rfl

theorem cleared_protocol : rule.cleared.protocol = rule.protocol := by
  simp only [protocol, cleared, Record.cleared_protocol, Record.cleared_protocolInverted]

theorem cleared_target : rule.cleared.target = rule.target := rule.table.cleared_verdictName rule.record

theorem cleared_action : rule.cleared.action = rule.action := by
  have goto : rule.cleared.record.isGoto = rule.record.isGoto := rule.record.cleared_isGoto
  rw [action, cleared_target, goto]
  rfl

theorem cleared_decode : rule.cleared.decode = rule.decode := by
  simp only [decode, cleared_address, cleared_port, cleared_protocol, cleared_action]
  rfl

theorem cleared_reading : rule.cleared.reading = rule.reading := by
  have record : rule.cleared.record.reading = rule.record.reading := rule.record.cleared_reading
  simp only [reading, record, funext rule.cleared_address, funext rule.cleared_port, cleared_protocol, cleared_target,
    cleared_action, cleared_decode]
  rfl

end Rule

theorem Table.cleared_rulesOf (table : Table) (chain : Chain) :
    table.cleared.rulesOf chain.cleared = (table.rulesOf chain).map Rule.cleared := by
  simp only [rulesOf, Chain.cleared, List.zipIdx_map, List.map_map]
  rfl

theorem Cursor.element_map (cursor : Cursor) (list : List α) (f : α → β) :
    cursor.element (list.map f) = (cursor.element list).map f := by
  simp only [element, List.getElem?_map]
  cases cursor.position with
  | error error => rfl
  | ok index =>
    simp only [ok_bind]
    cases list[index]? <;> rfl

namespace RuleWalk

def cleared (walk : RuleWalk) : RuleWalk := ⟨walk.table.cleared, walk.chain.cleared, walk.cursor⟩

variable (walk : RuleWalk)

theorem cleared_length : walk.cleared.length = walk.length := List.length_map _

theorem cleared_advance : walk.cleared.advance = walk.advance.cleared := by
  have length : walk.cleared.chain.rules.length = walk.chain.rules.length := List.length_map _
  rw [advance, length]
  rfl

theorem cleared_rule : walk.cleared.rule = walk.rule.map Rule.cleared := by
  rw [rule, cleared, Table.cleared_rulesOf, Cursor.element_map]
  rfl

theorem cleared_reading : walk.cleared.reading = walk.reading := by
  have rule : walk.cleared.rule.map Rule.reading = walk.rule.map Rule.reading := by
    rw [cleared_rule]
    cases walk.rule with
    | error error => rfl
    | ok rule => exact congrArg Except.ok rule.cleared_reading
  simp only [reading, rule, cleared_length]
  rfl

end RuleWalk

namespace Walk

def cleared (walk : Walk) : Walk := ⟨walk.table.cleared, walk.cursor, walk.rules.map RuleWalk.cleared⟩

variable (walk : Walk)

theorem cleared_chain : walk.cleared.chain = walk.chain.map Chain.cleared := Cursor.element_map _ _ _

theorem cleared_move (move : Move) : walk.cleared.move move = (walk.move move).cleared := by
  cases move with
  | advance =>
    have length : walk.cleared.table.chains.length = walk.table.chains.length := List.length_map _
    simp only [Walk.move, advance, length]
    rfl
  | openRules =>
    simp only [Walk.move, openRules, cleared_chain]
    cases walk.chain <;> rfl
  | closeRules => rfl
  | advanceRules =>
    have advanced : walk.cleared.rules.map RuleWalk.advance = (walk.rules.map RuleWalk.advance).map RuleWalk.cleared := by
      simp only [cleared, Option.map_map]
      exact congrArg (Option.map · walk.rules) (funext RuleWalk.cleared_advance)
    simp only [Walk.move, advanceRules, advanced]
    rfl

theorem cleared_foldl (moves : List Move) : moves.foldl move walk.cleared = (moves.foldl move walk).cleared := by
  induction moves generalizing walk with
  | nil => rfl
  | cons first rest ih => rw [List.foldl_cons, cleared_move, ih, List.foldl_cons]

theorem cleared_reading : walk.cleared.reading = walk.reading := by
  have rules : walk.cleared.rules.map RuleWalk.reading = walk.rules.map RuleWalk.reading := by
    simp only [cleared, Option.map_map]
    exact congrArg (Option.map · walk.rules) (funext RuleWalk.cleared_reading)
  simp only [reading, rules, cleared_chain]
  cases walk.chain with
  | error error => rfl
  | ok chain =>
    simp only [Except.map, ok_bind, chain.cleared_hook?, cleared, Table.cleared_policy]
    rfl

theorem shown_cleared (table : Table) (moves : List Move) : shown table.cleared moves = shown table moves :=
  (congrArg reading (cleared_foldl (start table) moves)).trans (cleared_reading _)

end Walk

namespace Collector

variable (config : CollectorConfig)

theorem collectRule_cleared (rule : Rule) : collectRule config rule.cleared = collectRule config rule := by
  rw [collectRule, rule.cleared_decode]
  rfl

theorem collectChain_cleared (table : Table) (chain : Chain) :
    collectChain config table.cleared chain.cleared = collectChain config table chain := by
  have rules : (table.cleared.rulesOf chain.cleared).mapM (collectRule config) =
      (table.rulesOf chain).mapM (collectRule config) := by
    rw [Table.cleared_rulesOf, List.mapM_map]
    exact congrArg (List.mapM · (table.rulesOf chain)) (funext (collectRule_cleared config))
  have last : reportedPolicy chain.cleared = reportedPolicy chain := by
    have length : chain.cleared.rules.length = chain.rules.length := List.length_map _
    funext policy
    rw [reportedPolicy, length]
    rfl
  rw [collectChain, rules, table.cleared_policy, last]
  rfl

theorem collectTable_cleared (table : Table) : collectTable config table.cleared = collectTable config table := by
  have chains : table.cleared.chains.mapM (collectChain config table.cleared) =
      table.chains.mapM (collectChain config table) := by
    rw [Table.cleared, List.mapM_map]
    exact congrArg (List.mapM · table.chains) (funext (collectChain_cleared config table))
  rw [collectTable, chains]
  rfl

theorem collectTable_congr {first second : Table} (same : first.cleared = second.cleared) :
    collectTable config first = collectTable config second := by
  rw [← collectTable_cleared, same, collectTable_cleared]

variable {config} {source other : TableSource}

/-- Sources that show the same, up to what no one reads, and log the same let a pass collect the same and
log the same. -/
theorem collect_congr (log : (source config.table).trace = (other config.table).trace)
    (shown : (source config.table).value.map (·.map Table.cleared) =
      (other config.table).value.map (·.map Table.cleared)) : collect source config = collect other config := by
  obtain ⟨error, failed, same⟩ | ⟨none | table, none | other, read, same, alike⟩ := map_eq_map shown
  · rw [collect, Attempt.ext (failed.trans same.symm) log, ← collect]
  · rw [collect, Attempt.ext (read.trans same.symm) log, ← collect]
  · cases alike
  · cases alike
  · exact collect_of_alike log read same (collectTable_congr config (Option.some.inj alike))

theorem collect_of_differ {first second : Bytes} (differ : DifferUnread first second 0) (info : TableInfo)
    (log : (source config.table).trace = (other config.table).trace)
    (read : (source config.table).value = ((Table.ofSnapshot info first).mapError .layout).map some)
    (otherRead : (other config.table).value = ((Table.ofSnapshot info second).mapError .layout).map some) :
    collect source config = collect other config := by
  refine collect_congr log ?_
  rw [read, otherRead]
  obtain ⟨error, failed, otherFailed⟩ | ⟨table, _, accepted, otherAccepted, alike⟩ :=
    map_eq_map (Table.ofSnapshot_of_differ differ info)
  · rw [failed, otherFailed]
  · rw [accepted, otherAccepted]
    exact congrArg (Except.ok ∘ some) alike

theorem collect_stored_of_differ {first second : Bytes} (differ : DifferUnread first second 0) (info : TableInfo)
    (others : StoredTables) (config : CollectorConfig) :
    collect (StoredTables.snapshot (others ++ [(info, first)])) config =
      collect (StoredTables.snapshot (others ++ [(info, second)])) config := by
  by_cases named : info.name = config.table
  · refine collect_of_differ differ info ?_ ?_ ?_
    · rw [StoredTables.snapshot_last, StoredTables.snapshot_last, if_pos named, if_pos named, Attempt.trace_map,
        Attempt.trace_map, Attempt.trace_ofExcept, Attempt.trace_ofExcept]
    · rw [StoredTables.snapshot_last, if_pos named, Attempt.value_map, Attempt.value_ofExcept]
    · rw [StoredTables.snapshot_last, if_pos named, Attempt.value_map, Attempt.value_ofExcept]
  · -- The pass reads another table.
    unfold collect
    rw [StoredTables.snapshot_last, StoredTables.snapshot_last, if_neg named, if_neg named]

end Collector

/-- The bytes that no one reads decide neither whether a table is accepted, nor why it is not, nor what
a walk shows, nor what a pass collects and logs. -/
theorem Table.unread_unseen {first second : Bytes} (differ : DifferUnread first second 0) (info : TableInfo) :
    ((∃ table other, ofSnapshot info first = .ok table ∧ ofSnapshot info second = .ok other ∧
        ∀ moves, Walk.shown table moves = Walk.shown other moves) ∨
      ∃ error, ofSnapshot info first = .error error ∧ ofSnapshot info second = .error error) ∧
    (∀ (source other : TableSource) (config : CollectorConfig),
      (source config.table).trace = (other config.table).trace →
      (source config.table).value = ((ofSnapshot info first).mapError .layout).map some →
      (other config.table).value = ((ofSnapshot info second).mapError .layout).map some →
      Collector.collect source config = Collector.collect other config) ∧
    ∀ (others : StoredTables) (config : CollectorConfig),
      Collector.collect (StoredTables.snapshot (others ++ [(info, first)])) config =
        Collector.collect (StoredTables.snapshot (others ++ [(info, second)])) config := by
  refine ⟨?_, fun _ _ _ => Collector.collect_of_differ differ info, Collector.collect_stored_of_differ differ info⟩
  obtain ⟨error, failed, otherFailed⟩ | ⟨table, other, accepted, otherAccepted, alike⟩ :=
    map_eq_map (ofSnapshot_of_differ differ info)
  · exact .inr ⟨error, failed, otherFailed⟩
  · refine .inl ⟨table, other, accepted, otherAccepted, fun moves => ?_⟩
    rw [← Walk.shown_cleared table, alike, Walk.shown_cleared]

namespace TableDraft

/-- The records of a table after its second one has seen packets. -/
def counted : Bytes := before.builtEntries.set 248 255

theorem counted_differs : DifferUnread before.builtEntries counted 0 := by
  refine ⟨List.length_set.symm, fun position _ other => ?_⟩
  have here : 248 = position := by
    by_contra elsewhere
    exact other (List.getElem?_set_ne elsewhere).symm
  subst here
  have first : (RuleDraft.unconditional (.verdict Verdict.accept)).image before.startOf 0 ∈ before.body := by
    decide +kernel
  have parsed := before_valid.anatomy.parse_of_body first
  have next : ((RuleDraft.unconditional (.verdict Verdict.accept)).image before.startOf 0).next = 152 := by
    rw [(RuleDraft.content_of_verdict rfl).image_next, RuleDraft.size_verdict]
  have reached : Reaches before.builtEntries 0 152 := .next parsed (next ▸ .here _)
  exact ⟨152, reached, by decide, by decide⟩

theorem counters_unseen : DifferUnread before.builtEntries counted 0 ∧ before.builtEntries ≠ counted ∧
    (∃ other, Table.ofSnapshot before.builtInfo before.builtEntries = .ok before.built ∧
      Table.ofSnapshot before.builtInfo counted = .ok other ∧ before.built ≠ other ∧
      ∀ moves, Walk.shown before.built moves = Walk.shown other moves) ∧
    ∀ config, Collector.collect (StoredTables.snapshot [(before.builtInfo, before.builtEntries)]) config =
      Collector.collect (StoredTables.snapshot [(before.builtInfo, counted)]) config := by
  obtain ⟨shown, _, collected⟩ := Table.unread_unseen counted_differs before.builtInfo
  have changed : before.builtEntries ≠ counted := by decide +kernel
  have apart : Table.ofSnapshot before.builtInfo before.builtEntries ≠ Table.ofSnapshot before.builtInfo counted := by
    decide +kernel
  obtain ⟨table, other, accepted, otherAccepted, alike⟩ | ⟨error, failed, _⟩ := shown
  · cases accepted.symm.trans before_valid.accepted.2
    refine ⟨counted_differs, changed, ⟨other, accepted, otherAccepted, ?_, alike⟩, collected []⟩
    rw [accepted, otherAccepted] at apart
    exact fun same => apart (congrArg Except.ok same)
  · cases failed.symm.trans before_valid.accepted.2

end TableDraft

end FilterWatch
