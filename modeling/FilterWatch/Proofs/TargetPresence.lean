import FilterWatch.Proofs.ChainRuns
import FilterWatch.Proofs.SnapshotGrammar
import FilterWatch.Proofs.TargetFaults

/-! Which records of an accepted snapshot have a target. The record that closes the table does, and so
do the head and the closing return of a user chain. A rule of a user chain need not have room for one.
What the hooks span is accepted whatever its targets are like. -/

namespace FilterWatch
open Proofs.Outcomes

namespace Record

def HasTarget (record : Record) : Prop := ∃ target, record.target = .ok (some target)

theorem Carries.hasTarget {record : Record} {name : String} (carries : record.Carries name) : record.HasTarget :=
  carries.imp fun _ found => found.1

theorem Returns.hasTarget {record : Record} (returns : record.Returns) : record.HasTarget :=
  returns.imp fun _ found => found.1

theorem Readable.exists_target {record : Record} (readable : record.Readable) :
    ∃ found, record.target = .ok found :=
  readable.elim (fun missing => ⟨_, missing⟩) fun present => present.elim fun _ found => ⟨_, found.1⟩

theorem Readable.target_cases {record : Record} (readable : record.Readable) :
    record.target = .ok none ∨ record.HasTarget :=
  readable.imp_right fun found => found.imp fun _ found => found.1

end Record

/-- The targets of the records of an accepted snapshot, and of its rules and policies when they are read. -/
theorem Table.targets_of_accepted {info : TableInfo} {entries : Bytes} {table : Table}
    (accepted : ofSnapshot info entries = .ok table) :
    ∃ body closing passages, Division info entries body closing passages ∧
      (∀ record ∈ body ++ [closing], 112 ≤ record.targetOffset ∧ record.targetOffset ≤ record.size ∧
        (record.target = .ok none ↔ record.targetOffset = record.size) ∧
        ∀ target, record.target = .ok (some target) →
          record.bytes.word16At record.targetOffset = .ok (UInt16.ofNat target.size) ∧
          32 ≤ target.size ∧ record.targetOffset + target.size ≤ record.size) ∧
      closing.HasTarget ∧
      (∀ passage ∈ passages, passage.head.HasTarget ∧ passage.last.HasTarget) ∧
      (∀ record ∈ body, info.Spares record → record.target = .ok none ∨ record.HasTarget) ∧
      (∀ chain ∈ table.chains, ∀ rule ∈ table.rulesOf chain,
        (∀ side, IgnoresTargets (rule.address side) ∧ IgnoresTargets (rule.port side).value) ∧
        IgnoresTargets rule.protocol ∧
        (∀ offset, rule.action = .error (.missingTarget offset) ↔
          rule.record.targetOffset = rule.record.size ∧ offset = rule.record.offset) ∧
        (chain.kind = .user → IgnoresTargets rule.target ∧
          ∀ reason, rule.action = .error reason ∨ rule.decode.value = .error reason → reason.ConcernsTarget →
            reason = .missingTarget rule.record.offset ∧ rule.record.targetOffset = rule.record.size)) ∧
      ∀ chain ∈ table.chains, ∀ policy, chain.policy? = some policy →
        ∀ offset, table.policy chain = .error (.missingTarget offset) ↔
          policy.targetOffset = policy.size ∧ offset = policy.offset := by
  obtain ⟨body, closing, builtin, passages, anatomy, rfl⟩ := ofSnapshot_eq_ok.mp accepted
  have division := anatomy.division
  have grammar := Grammar.of_anatomy anatomy
  refine ⟨body, closing, passages, division, ?_, grammar.closing.hasTarget, ?_, ?_, ?_, ?_⟩
  · intro record _
    exact ⟨record.header_le, record.target_le, Record.target_eq_none, fun target found => Record.target_block found⟩
  · intro passage member
    have valid := division.valid passage member
    exact ⟨(Record.errorName_eq_some.mp valid.head).hasTarget, valid.last.hasTarget⟩
  · intro record inside spares
    exact (grammar.readable record (TableInfo.mem_spared.mpr ⟨inside, spares⟩)).target_cases
  · intro chain member rule inside
    refine ⟨fun side => ⟨rule.address_ignores side, rule.port_ignores side⟩, rule.protocol_ignores,
      fun offset => Rule.action_eq_missing, fun user => ?_⟩
    obtain ⟨_, _, own⟩ := mem_rulesOf inside
    obtain ⟨passage, present, rfl⟩ := anatomy.passage_of_user member user
    -- No hook spans the rules of a user chain, whose targets have therefore been looked at.
    have listed : rule.record ∈ passage.records := by
      have ruled : rule.record ∈ passage.rules := own
      simp [Passage.records, ruled]
    obtain ⟨present, spares⟩ := division.mem_body present listed
    have readable := grammar.readable _ (TableInfo.mem_spared.mpr ⟨present, spares⟩)
    obtain ⟨found, read⟩ := readable.exists_target
    refine ⟨verdictName_ignores read, fun reason failed concerns => ?_⟩
    exact Rule.action_missing read (failed.elim id fun undecoded => Rule.action_of_decode undecoded concerns) concerns
  · intro chain _ policy decides offset
    exact policy_eq_missing decides

namespace TableDraft

/-- A record that ends where its header does. -/
def bare (offset : Nat) : Record where
  offset := offset
  bytes := Bytes.zeros 88 ++ Bytes.ofWord16 112 ++ Bytes.ofWord16 112 ++ Bytes.zeros 20
  targetOffset := 112
  header_le := Nat.le_refl Record.headerSize
  target_le := by decide

/-- A record with a target block that is smaller than the header of one. -/
def stunted (offset : Nat) : Record where
  offset := offset
  bytes := Bytes.zeros 88 ++ Bytes.ofWord16 112 ++ Bytes.ofWord16 144 ++ Bytes.zeros 20 ++ Bytes.ofWord16 16 ++
    Bytes.zeros 30
  targetOffset := 112
  header_le := Nat.le_refl Record.headerSize
  target_le := by simp [Bytes.zeros, Bytes.ofWord16, Bytes.length_ofNat]

def untargetedChains : List Chain := [
  { name := "INPUT", kind := .builtin .input (stunted 112), start := 0, rules := [bare 0] },
  { name := "web", kind := .user, start := 432, rules := [bare 432] }]

def untargetedEntries : Bytes :=
  [bare 0, stunted 112, unhookedRecord (.head "web") 256, bare 432, unhookedRecord (.verdict Verdict.ret) 544,
    unhookedRecord (.head "ERROR") 696].flatMap Record.bytes

def untargetedInfo : TableInfo where
  name := "filter"
  validHooks := Hook.input.bit
  hookEntry := .fill 0
  underflow := (PerHook.fill 0).set .input 112
  entryCount := 6
  size := 872

theorem untargeted_accepted :
    Table.ofSnapshot untargetedInfo untargetedEntries = .ok ⟨untargetedInfo, untargetedChains⟩ := by
  decide +kernel

/-- A table is accepted although neither the rule nor the policy of a hook has a target that can be
read, nor the rule of a user chain has one at all. -/
theorem untargeted_unread : ∃ table, Table.ofSnapshot untargetedInfo untargetedEntries = .ok table ∧
    (∃ chain ∈ table.chains, chain.hook? = some .input ∧
      table.policy chain = .error (.invalidTargetSize 224 16) ∧
      ∃ rule ∈ table.rulesOf chain, rule.record.target = .ok none ∧ rule.action = .error (.missingTarget 0)) ∧
    ∃ chain ∈ table.chains, chain.kind = .user ∧
      ∃ rule ∈ table.rulesOf chain, rule.record.target = .ok none ∧ rule.action = .error (.missingTarget 432) := by
  refine ⟨_, untargeted_accepted, ?_, ?_⟩
  · refine ⟨_, List.mem_cons_self, rfl, by decide +kernel, _, List.mem_cons_self, ?_, ?_⟩
    · exact Record.target_eq_none.mpr rfl
    · exact Rule.action_eq_missing.mpr ⟨rfl, rfl⟩
  · refine ⟨_, List.mem_cons_of_mem _ List.mem_cons_self, rfl, _, List.mem_cons_self, ?_, ?_⟩
    · exact Record.target_eq_none.mpr rfl
    · exact Rule.action_eq_missing.mpr ⟨rfl, rfl⟩

theorem targets_of_untargeted :
    Table.ofSnapshot untargetedInfo untargetedEntries = .ok ⟨untargetedInfo, untargetedChains⟩ ∧
    ∃ body closing passages, Division untargetedInfo untargetedEntries body closing passages ∧ closing.HasTarget ∧
      (∀ passage ∈ passages, passage.head.HasTarget ∧ passage.last.HasTarget) ∧
      ∀ record ∈ body, untargetedInfo.Spares record → record.target = .ok none ∨ record.HasTarget := by
  obtain ⟨body, closing, passages, division, _, closed, ends, spared, _⟩ := Table.targets_of_accepted untargeted_accepted
  exact ⟨untargeted_accepted, body, closing, passages, division, closed, ends, spared⟩

end TableDraft

end FilterWatch
