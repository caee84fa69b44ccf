import FilterWatch.Proofs.ChainIndex
import FilterWatch.Proofs.DecodingFaults
import FilterWatch.Proofs.PortColumns
import FilterWatch.Proofs.Sessions

/-! A table that keeps of its records only where they stand. To read, it looks a place up by an index and
parses the bytes there once more, and either could miss. In an accepted table neither does, whatever
calls have been made: what is found is what the table had when it was accepted. -/

namespace FilterWatch
open Proofs.Outcomes

structure PlacedChain where
  name : String
  hook : Option Hook
  start : Nat
  rules : List Nat
  policy : Option Nat
  deriving DecidableEq, Repr

structure PlacedTable where
  entries : Bytes
  chains : List PlacedChain
  /-- The index of the user chain that starts at an offset. -/
  heads : Std.HashMap Nat Nat

/-- The chain with the offsets of its records in place of the records. -/
def Chain.placed (chain : Chain) : PlacedChain where
  name := chain.name
  hook := chain.hook?
  start := chain.start
  rules := chain.rules.map Record.offset
  policy := chain.policy?.map Record.offset

def Table.placed (table : Table) (entries : Bytes) : PlacedTable :=
  ⟨entries, table.chains.map Chain.placed, table.heads⟩

namespace PlacedTable

open PlaceFault

def record (table : PlacedTable) (offset : Nat) : Except PlaceFault Record :=
  (Record.parse table.entries offset).mapError .layout

/-- The chain on which a cursor over the chains stands. -/
def chain (table : PlacedTable) (cursor : Cursor) : Except PlaceFault PlacedChain := do
  lookup table.chains (← cursor.position.mapError .layout)

/-- The record of the rule on which a cursor over the rules of a chain stands. -/
def rule (table : PlacedTable) (chain : PlacedChain) (cursor : Cursor) : Except PlaceFault Record := do
  table.record (← lookup chain.rules (← cursor.position.mapError .layout))

/-- The user chain that starts at an offset, if the index has one for it. -/
def chainAt? (table : PlacedTable) (offset : Nat) : Except PlaceFault (Option PlacedChain) :=
  match table.heads[offset]? with
  | none => .ok none
  | some index => (lookup table.chains index).map some

/-- The name of what a record decides. -/
def verdictName (table : PlacedTable) (record : Record) : Except PlaceFault (Option String) := do
  let some target ← record.target.mapError .layout | return none
  if !target.isStandard then return some target.name
  let code ← target.verdict.mapError .layout
  match Verdict.name? code with
  | some name => return some name
  | none =>
    if code < 0 then throw (.layout (.invalidVerdict code))
    let destination := code.toInt.toNat
    if destination = record.next then return some ""
    match ← table.chainAt? destination with
    | some chain => return some chain.name
    | none => throw (.layout (.invalidJump code))

def policy (table : PlacedTable) (chain : PlacedChain) : Except PlaceFault (Option Action) :=
  match chain.policy with
  | none => .ok none
  | some offset => do
    let record ← table.record offset
    (Action.ofVerdict (← table.verdictName record) false record.offset).mapError .layout

end PlacedTable

theorem PlaceFault.lookup_map (list : List α) (f : α → β) (index : Nat) :
    lookup (list.map f) index = (lookup list index).map f := by
  unfold lookup
  rw [List.getElem?_map, List.length_map]
  cases list[index]? <;> rfl

theorem Cursor.reached_of_on {list : List α} {advances index : Nat}
    (stands : afterAdvances list.length advances = on index) : ∃ value, reached list advances = some value := by
  cases advances with
  | zero => cases stands
  | succ place =>
    simp only [afterAdvances] at stands
    split at stands
    next inside => exact ⟨list[place], List.getElem?_eq_getElem inside⟩
    · cases stands

namespace Session

/-- A walk over rules is one over those of a chain of the table, wherever it stands. -/
theorem opened_of_calls {table : Table} {calls : List Call} {rules : RuleWalk}
    (member : some rules ∈ (after table calls).opened) :
    ∃ chain ∈ table.chains, ∃ advances, rules = .counted table chain advances := by
  -- Opening adds a walk and advancing moves one; no other call makes or moves any.
  induction calls using List.reverseRecOn generalizing rules with
  | nil => cases member
  | append_singleton calls call ih =>
    rw [after_append_singleton] at member
    cases call with
    | advance => simp [perform] at member
    | read | readRules _ => exact ih member
    | openRules =>
      rcases List.mem_append.mp member with earlier | opens
      · exact ih earlier
      · have current := List.mem_singleton.mp opens
        rw [walk_after, Walk.openRules, Walk.chain_counted] at current
        cases here : reached table.chains (calls.count .advance) with
        | none =>
          rw [here] at current
          cases current
        | some chain =>
          rw [here] at current
          cases current
          exact ⟨chain, List.mem_of_getElem? (reached_eq_some.mp here).2, 0, rfl⟩
    | dropRules number =>
      rcases List.mem_or_eq_of_mem_set member with earlier | gone
      · exact ih earlier
      · cases gone
    | advanceRules number =>
      obtain ⟨place, here⟩ := List.mem_iff_getElem?.mp member
      obtain ⟨entry, earlier, moved⟩ : ∃ entry, (after table calls).opened[place]? = some entry ∧
          (if number = place then entry.map RuleWalk.advance else entry) = some rules := by
        simpa [perform, List.getElem?_modify] using here
      cases entry with
      | none => split at moved <;> cases moved
      | some stood =>
        obtain ⟨chain, listed, advances, rfl⟩ := ih (List.mem_of_getElem? earlier)
        split at moved
        · cases moved
          exact ⟨chain, listed, advances + 1, RuleWalk.advance_counted table chain advances⟩
        · cases moved
          exact ⟨chain, listed, advances, rfl⟩

theorem rules_of_calls {table : Table} {calls : List Call} {number : Nat} {rules : RuleWalk}
    (there : (after table calls).rules? number = some rules) :
    ∃ chain ∈ table.chains, ∃ advances, rules = .counted table chain advances := by
  exact opened_of_calls (List.mem_of_getElem? (rules?_eq_some.mp there))

end Session

namespace Table

theorem map_record_rulesOf (table : Table) (chain : Chain) : (table.rulesOf chain).map Rule.record = chain.rules := by
  rw [rulesOf, List.map_map]
  exact chain.rules.zipIdx_map_fst 0

theorem placed_chain (table : Table) (entries : Bytes) (advances : Nat) :
    (table.placed entries).chain (.afterAdvances table.chains.length advances) =
      ((Walk.counted table advances).chain.map Chain.placed).mapError .layout := by
  rw [PlacedTable.chain, Cursor.position_afterAdvances, Walk.chain_counted, placed]
  cases reach : reached table.chains advances with
  | none => rfl
  | some chain =>
    have here := (reached_eq_some.mp reach).2
    simp only [Option.map_some, Cursor.held, mapError_ok, ok_bind, PlaceFault.lookup_map,
      PlaceFault.lookup_eq_ok.mpr here, Except.map]

end Table

section Accepted

variable {info : TableInfo} {entries : Bytes} {table : Table} (accepted : Table.ofSnapshot info entries = .ok table)
include accepted

namespace Table

theorem placed_record_of_rule {chain : Chain} (listed : chain ∈ table.chains) {record : Record}
    (member : record ∈ chain.rules) : (table.placed entries).record record.offset = .ok record := by
  obtain ⟨body, closing, builtin, passages, anatomy, rfl⟩ := ofSnapshot_eq_ok.mp accepted
  rw [PlacedTable.record, placed, anatomy.parse_of_body (anatomy.mem_body_of_rule listed member)]
  rfl

theorem placed_record_of_policy {chain : Chain} (listed : chain ∈ table.chains) {record : Record}
    (decides : chain.policy? = some record) : (table.placed entries).record record.offset = .ok record := by
  obtain ⟨body, closing, builtin, passages, anatomy, rfl⟩ := ofSnapshot_eq_ok.mp accepted
  rw [PlacedTable.record, placed, anatomy.parse_of_body (anatomy.mem_body_of_policy listed decides)]
  rfl

theorem placed_chainAt? (offset : Nat) :
    (table.placed entries).chainAt? offset = .ok ((table.chainAt? offset).map Chain.placed) := by
  obtain ⟨body, closing, builtin, passages, anatomy, rfl⟩ := ofSnapshot_eq_ok.mp accepted
  rw [chainAt?_eq_heads anatomy.nodup_starts, PlacedTable.chainAt?, placed]
  cases indexed : (heads ⟨info, Passage.listed builtin passages⟩)[offset]? with
  | none => rfl
  | some index =>
    obtain ⟨passage, _, _, here⟩ := anatomy.heads_eq_some.mp indexed
    simp only [PlaceFault.lookup_map, PlaceFault.lookup_eq_ok.mpr here, Option.bind_some, here]
    rfl

theorem placed_verdictName (record : Record) :
    (table.placed entries).verdictName record = (table.verdictName record).mapError .layout := by
  unfold PlacedTable.verdictName verdictName
  cases record.target with
  | error error => rfl
  | ok found =>
    cases found with
    | none => rfl
    | some target =>
      simp only [mapError_ok, ok_bind]
      split
      · rfl
      · cases target.verdict with
        | error error => rfl
        | ok code =>
          simp only [mapError_ok, ok_bind, placed_chainAt? accepted]
          cases Verdict.name? code with
          | some name => rfl
          | none =>
            simp only
            split
            · rfl
            · split
              · rfl
              · cases table.chainAt? code.toInt.toNat <;> rfl

theorem placed_policy {chain : Chain} (listed : chain ∈ table.chains) :
    (table.placed entries).policy chain.placed = (table.policy chain).mapError .layout := by
  cases decides : chain.policy? with
  | none =>
    rw [PlacedTable.policy, policy, Chain.placed, decides]
    rfl
  | some record =>
    have found := placed_record_of_policy accepted listed decides
    simp only [PlacedTable.policy, policy, Chain.placed, decides, Option.map_some, found, ok_bind,
      placed_verdictName accepted]
    cases table.verdictName record <;> rfl

theorem placed_rule {chain : Chain} (listed : chain ∈ table.chains) (advances : Nat) :
    (table.placed entries).rule chain.placed (RuleWalk.counted table chain advances).cursor =
      ((RuleWalk.counted table chain advances).rule.map Rule.record).mapError .layout := by
  rw [PlacedTable.rule, RuleWalk.rule_counted, RuleWalk.cursor_counted, Cursor.position_afterAdvances]
  cases reach : reached (table.rulesOf chain) advances with
  | none => rfl
  | some rule =>
    have here := (reached_eq_some.mp reach).2
    have stored : chain.rules[advances - 1]? = some rule.record := by
      rw [← table.map_record_rulesOf chain, List.getElem?_map, here]
      rfl
    simp only [Chain.placed, Option.map_some, Cursor.held, mapError_ok, ok_bind, PlaceFault.lookup_map,
      PlaceFault.lookup_eq_ok.mpr stored, Except.map]
    exact placed_record_of_rule accepted listed (List.mem_of_getElem? stored)

/-- Reading by places in an accepted table, whatever calls have been made. It fails where there is nothing to
read and never misses: neither the chains or the rules under a cursor, nor the bytes of a rule or a policy,
nor the chain that a jump leads to, nor the marks of a list of ports. A rule that cannot be read has its match
blocks, its protocol or its target to blame. -/
theorem reads_inside (calls : List Session.Call) :
    let placed := table.placed entries
    let session := Session.after table calls
    (placed.chain session.walk.cursor = (session.walk.chain.map Chain.placed).mapError .layout ∧
      ∀ index, session.walk.cursor = .on index → ∃ chain ∈ table.chains, session.walk.chain = .ok chain) ∧
    (∀ chain ∈ table.chains, placed.policy chain.placed = (table.policy chain).mapError .layout ∧
      ∀ policy, chain.policy? = some policy → placed.record policy.offset = .ok policy ∧ policy.FieldsRead) ∧
    ∀ number rules, session.rules? number = some rules →
      placed.rule rules.chain.placed rules.cursor = (rules.rule.map Rule.record).mapError .layout ∧
      ∀ index, rules.cursor = .on index → ∃ rule, rules.rule = .ok rule ∧ rule.record.FieldsRead ∧
        placed.verdictName rule.record = rule.target.mapError .layout ∧
        (∀ block ∈ rule.record.matchWalk.blocks, Match.PortList.MarksFound block.data) ∧
        ∀ error, rule.decode.value = .error error → rule.Blames error := by
  intro placed session
  have walk : session.walk = .counted table (calls.count .advance) := Session.walk_after table calls
  refine ⟨⟨?_, fun index stands => ?_⟩, fun chain listed => ⟨placed_policy accepted listed, fun policy decides => ?_⟩,
    fun number rules there => ?_⟩
  · rw [walk]
    exact placed_chain table entries _
  · rw [walk] at stands
    obtain ⟨chain, reach⟩ := Cursor.reached_of_on stands
    refine ⟨chain, List.mem_of_getElem? (reached_eq_some.mp reach).2, ?_⟩
    rw [walk, Walk.chain_counted, reach]
    rfl
  · exact ⟨placed_record_of_policy accepted listed decides, policy.fieldsRead⟩
  · obtain ⟨chain, listed, advances, rfl⟩ := Session.rules_of_calls there
    refine ⟨placed_rule accepted listed advances, fun index stands => ?_⟩
    rw [RuleWalk.cursor_counted] at stands
    obtain ⟨rule, reach⟩ := Cursor.reached_of_on stands
    obtain ⟨same, _, _⟩ := mem_rulesOf (List.mem_of_getElem? (reached_eq_some.mp reach).2)
    refine ⟨rule, ?_, rule.record.fieldsRead, ?_, fun block _ => Match.PortList.marksFound block.data,
      fun error failed => Rule.blames_of_decode failed⟩
    · rw [RuleWalk.rule_counted, reach]
      rfl
    · rw [Rule.target, same]
      exact placed_verdictName accepted rule.record

end Table

end Accepted

namespace TableDraft

/-- The first rule of a chain, which goes on to a user chain. -/
theorem reads_inside_sample : Table.ofSnapshot sample.builtInfo sample.builtEntries = .ok sample.built ∧
    ∃ chain record, sample.built.chains[1]? = some chain ∧
      let placed := sample.built.placed sample.builtEntries
      placed.rule chain.placed (.on 0) = .ok record ∧ record.FieldsRead ∧
        placed.verdictName record = .ok (some "b") := by
  have valid : sample.Valid := by decide
  obtain ⟨chain, here, passage, present, named, rule, first, leads⟩ : ∃ chain, sample.built.chains[1]? = some chain ∧
      ∃ passage ∈ sample.passages, passage.name = "b" ∧
        ∃ rule ∈ (sample.built.rulesOf chain)[0]?, rule.record.jumpsTo passage.chain.start = true := by
    refine ⟨_, rfl, ?_⟩
    decide +kernel
  have first : (sample.built.rulesOf chain)[0]? = some rule := first
  have user : passage.chain ∈ sample.built.chains := Anatomy.mem_listed.mpr (.inr ⟨passage, present, rfl⟩)
  have decides : rule.target = .ok (some "b") := named ▸ Table.target_of_jump valid.accepted.2 user rfl
    (List.mem_of_getElem? here) (List.mem_of_getElem? first) leads
  let moves : List Session.Call := [.advance, .advance]
  let calls := moves ++ [.openRules, .advanceRules 0]
  have current : reached sample.built.chains (moves.count .advance) = some chain := here
  have there : (Session.after sample.built calls).rules? 0 = some (.counted sample.built chain 1) :=
    Session.rules?_after current (by decide) (by decide)
  obtain ⟨_, _, rules⟩ := Table.reads_inside valid.accepted.2 calls
  obtain ⟨found, stands⟩ := rules 0 _ there
  have reach : (RuleWalk.counted sample.built chain 1).rule = .ok rule := by
    rw [RuleWalk.rule_counted, reached, first]
    rfl
  have place : (RuleWalk.counted sample.built chain 1).cursor = .on 0 := by
    rw [RuleWalk.cursor_counted]
    exact if_pos (List.getElem?_eq_some_iff.mp first).1
  rw [reach, place] at found
  obtain ⟨other, same, fields, verdict, _⟩ := stands 0 place
  cases reach.symm.trans same
  have told := verdict.trans (congrArg (Except.mapError _) decides)
  exact ⟨valid.accepted.2, chain, rule.record, here, found, fields, told⟩

end TableDraft

end FilterWatch
