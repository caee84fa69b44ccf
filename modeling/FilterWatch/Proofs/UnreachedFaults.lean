import FilterWatch.Proofs.AddressRanges
import FilterWatch.Proofs.PortBlocks

/-! Rules whose match blocks end in a fault. Each reader of a rule goes through the blocks for itself and stops at what
it looks for, so the fault is told only if one of them comes as far as that. -/

namespace FilterWatch
open Proofs.Outcomes

namespace Match.AddressRange

variable {block : MatchBlock} {side : Side}

/-- A block is read for either side exactly if its revision is known and its flags are there. -/
theorem test_total_iff : (∃ asked, test block side = .ok asked) ↔ ∃ slot flags, Laid block slot flags := by
  constructor
  · rintro ⟨asked, read⟩
    unfold test at read
    obtain ⟨slot, width, read⟩ := bind_eq_ok.mp read
    have known : block.revision = 0 ∧ slot = 4 ∨ block.revision = 1 ∧ slot = 16 := by
      unfold slotWidth at width
      split at width
      next narrow =>
        cases width
        exact .inl ⟨narrow, rfl⟩
      split at width
      next wide =>
        cases width
        exact .inr ⟨wide, rfl⟩
      · cases width
    by_cases short : block.data.length ≤ 4 * slot
    · dsimp only at read
      rw [if_pos short] at read
      cases read
    · have long := Nat.not_le.mp short
      exact ⟨slot, block.data[4 * slot], known, List.getElem?_eq_getElem long⟩
  · rintro ⟨slot, flags, laid⟩
    have long : 4 * slot < block.data.length := (List.getElem?_eq_some_iff.mp laid.flags).1
    -- All four slots are before the flags, so that a block with flags has its addresses.
    have wide : 4 ≤ slot := by
      rcases laid.width with ⟨-, rfl⟩ | ⟨-, rfl⟩ <;> decide
    have ends (place : Nat) (inside : place ≤ 3) : ∃ address, block.data.addressAt (place * slot) = .ok address := by
      apply Bytes.addressAt_within
      have before : place * slot ≤ 3 * slot := Nat.mul_le_mul_right slot inside
      omega
    rw [laid.test_eq]
    split
    · exact ⟨none, rfl⟩
    · obtain ⟨low, lower⟩ := ends (lowerSlot side) (by cases side <;> decide)
      obtain ⟨high, upper⟩ := ends (lowerSlot side + 1) (by cases side <;> decide)
      rw [lower, ok_bind, upper]
      exact ⟨_, rfl⟩

end Match.AddressRange

namespace Rule
open Match

/-- Some block asks for ports of the side, and every block before it is read and asks for none. -/
def Answered (blocks : List MatchBlock) (side : Side) : Prop :=
  ∃ passed block rest asked, blocks = passed ++ block :: rest ∧ (∀ other ∈ passed, Asks other side none) ∧
    Asks block side (some asked)

theorem firstPortTest_ok_iff (chain : String) (side : Side) (fault : LayoutError) (blocks : List MatchBlock) :
    (∃ asked, (firstPortTest chain side (some fault) blocks).value = .ok asked) ↔ Answered blocks side := by
  constructor
  · rintro ⟨asked, read⟩
    induction blocks with
    | nil => cases read
    | cons block rest ih =>
      rw [firstPortTest, Attempt.value_bind] at read
      obtain ⟨said, first, read⟩ := bind_eq_ok.mp read
      have asks := blockPorts_value_eq_ok.mp first
      cases said with
      | some test => exact ⟨[], block, rest, test, rfl, by simp, asks⟩
      | none =>
        obtain ⟨passed, answer, behind, test, rfl, silent, wins⟩ := ih read
        exact ⟨block :: passed, answer, behind, test, rfl, List.forall_mem_cons.mpr ⟨asks, silent⟩, wins⟩
  · rintro ⟨passed, block, rest, asked, rfl, silent, asks⟩
    exact ⟨some asked, by rw [firstPortTest_of_silent _ _ silent, firstPortTest_of_asks asks]⟩

theorem headerTest_total (rule : Rule) (side : Side) : ∃ base, rule.headerTest side = .ok base := by
  cases read : rule.headerTest side with
  | ok base => exact ⟨base, rfl⟩
  | error cause => exact absurd read (headerTest_ne_error side)

variable {rule : Rule} {fault : LayoutError} (faulty : rule.record.matchWalk.fault = some fault) {side : Side}
include faulty

theorem rangeBlock_of_fault : rangeBlock rule.record.matchWalk =
    match rule.rangeBlocks.head? with
    | some block => .ok (some block)
    | none => .error fault := by
  rw [rangeBlock, faulty, rangeBlocks, List.head?_filter]
  cases rule.record.matchWalk.blocks.find? _ <;> rfl

theorem address_of_fault (unranged : rule.rangeBlocks = []) : rule.address side = .error fault := by
  rw [address, addressTest, rangeBlock_of_fault faulty, unranged]
  rfl

theorem address_ok_iff : (∃ told, rule.address side = .ok told) ↔
    ∃ block slot flags, rule.rangeBlocks.head? = some block ∧ AddressRange.Laid block slot flags := by
  cases first : rule.rangeBlocks.head? with
  | none =>
    rw [address_of_fault faulty (List.head?_eq_none_iff.mp first)]
    simp
  | some block =>
    have total : (∃ told, rule.address side = .ok told) ↔ ∃ asked, AddressRange.test block side = .ok asked := by
      rw [address, addressTest, rangeBlock_of_fault faulty, first, ok_bind]
      dsimp only
      cases AddressRange.test block side with
      | error cause => simp [error_bind, Except.map]
      | ok asked =>
        refine iff_of_true ?_ ⟨asked, rfl⟩
        cases asked with
        | some test => exact ⟨_, rfl⟩
        | none =>
          obtain ⟨base, header⟩ := rule.headerTest_total side
          exact ⟨base.text?, by rw [ok_bind, header]; rfl⟩
    rw [total, AddressRange.test_total_iff]
    simp

theorem port_ok_iff : (∃ told, (rule.port side).value = .ok told) ↔ Answered rule.record.matchWalk.blocks side := by
  rw [← firstPortTest_ok_iff rule.chain.name side fault, port, Attempt.value_map, portTest, faulty]
  cases (firstPortTest _ _ _ _).value <;> simp [Except.map]

theorem port_of_fault (silent : ∀ block ∈ rule.record.matchWalk.blocks, Asks block side none) :
    (rule.port side).value = .error fault := by
  have passed := firstPortTest_of_silent rule.chain.name (some fault) silent []
  rw [List.append_nil] at passed
  rw [port, Attempt.value_map, portTest, faulty, passed]
  rfl

omit faulty in
theorem decode_ok_iff : (∃ decoded, rule.decode.value = .ok decoded) ↔
    (∀ side, ∃ told, rule.address side = .ok told) ∧ (∀ side, ∃ told, (rule.port side).value = .ok told) ∧
      (∃ told, rule.protocol = .ok told) ∧ ∃ action, rule.action = .ok action := by
  simp only [decode, Attempt.value_bind, Attempt.value_ofExcept, bind_eq_ok]
  constructor
  · rintro ⟨_, sourceAddress, source, destinationAddress, destination, sourcePort, leaving, destinationPort, arriving,
      protocol, carried, action, decided, -⟩
    refine ⟨fun side => ?_, fun side => ?_, ⟨protocol, carried⟩, action, decided⟩
    · cases side
      · exact ⟨sourceAddress, source⟩
      · exact ⟨destinationAddress, destination⟩
    · cases side
      · exact ⟨sourcePort, leaving⟩
      · exact ⟨destinationPort, arriving⟩
  · rintro ⟨addresses, ports, ⟨protocol, carried⟩, action, decided⟩
    obtain ⟨sourceAddress, source⟩ := addresses .source
    obtain ⟨destinationAddress, destination⟩ := addresses .destination
    obtain ⟨sourcePort, leaving⟩ := ports .source
    obtain ⟨destinationPort, arriving⟩ := ports .destination
    exact ⟨_, _, source, _, destination, _, leaving, _, arriving, _, carried, _, decided, rfl⟩

omit faulty in
/-- A rule whose match blocks end in a fault is decoded exactly if no reader comes as far as the fault: if its first
block on ranges can be read, each side is asked for its ports by a block, and nothing else is wrong with the rule. A
reader that finds nothing to stop at tells the fault. -/
theorem decode_of_fault (rule : Rule) {fault : LayoutError} (faulty : rule.record.matchWalk.fault = some fault) :
    ((∃ decoded, rule.decode.value = .ok decoded) ↔
      (∃ block slot flags, rule.rangeBlocks.head? = some block ∧ AddressRange.Laid block slot flags) ∧
      (∀ side, Answered rule.record.matchWalk.blocks side) ∧
      (∃ told, rule.protocol = .ok told) ∧ ∃ action, rule.action = .ok action) ∧
    (rule.rangeBlocks = [] → rule.decode.value = .error fault) ∧
    (∀ side, (∀ block ∈ rule.record.matchWalk.blocks, Asks block side none) →
      (rule.port side).value = .error fault ∧ ∃ error, rule.decode.value = .error error) := by
  refine ⟨?_, fun unranged => ?_, fun side silent => ?_⟩
  · have : Nonempty Side := ⟨.source⟩
    rw [decode_ok_iff]
    simp only [address_ok_iff faulty, port_ok_iff faulty]
    exact and_congr_left' (forall_const Side)
  · rw [decode, Attempt.value_bind, Attempt.value_ofExcept, address_of_fault faulty unranged]
    rfl
  · have told := port_of_fault faulty silent
    refine ⟨told, ?_⟩
    cases read : rule.decode.value with
    | error error => exact ⟨error, rfl⟩
    | ok decoded =>
      obtain ⟨-, ports, -⟩ := decode_ok_iff.mp ⟨decoded, read⟩
      obtain ⟨text, instead⟩ := ports side
      cases told.symm.trans instead

end Rule

namespace TableDraft
open Match

def bothRanges : MatchBlock := rangesOf [⟨10, 0, 0, 1⟩, ⟨10, 0, 0, 9⟩, ⟨10, 0, 1, 1⟩, ⟨10, 0, 1, 9⟩] 3

def shellClient : MatchBlock := ⟨PortRange.tcp.name, 0, [0, 4, 255, 255, 22, 0, 22, 0, 0, 0, 0, 0]⟩

/-- A rule with eight zeros behind its blocks, which announce a block of no size. -/
def unreached : TableDraft where
  name := "filter"
  builtins := [{
    hook := .input, policy := Verdict.drop
    rules := [{
      RuleDraft.unconditional (.verdict Verdict.accept) with
      protocol := 6
      blocks := [bothRanges.image, shellClient.image, Bytes.zeros 8] }] }]
  chains := []

/-- A rule of which every field is told. -/
def fullyTold : DecodedRule where
  chain := "INPUT"
  index := 0
  sourceAddress := some "10.0.0.1-10.0.0.9"
  destinationAddress := some "10.0.1.1-10.0.1.9"
  sourcePort := some "1024-65535"
  destinationPort := some "22 "
  protocol := some "tcp"
  action := some .allow

theorem unreached_valid : unreached.Valid := by decide +kernel

theorem unreached_told : ∃ chain ∈ unreached.built.chains, ∃ rule ∈ unreached.built.rulesOf chain,
    rule.record.matchWalk = ⟨[bothRanges.padded, shellClient.padded], some (.invalidMatchSize 264 0)⟩ ∧
      rule.protocol = .ok (some "tcp") ∧ rule.action = .ok (some .allow) ∧ rule.decode.value = .ok fullyTold := by
  decide +kernel

/-- A rule of an accepted table is decoded, although the walk over its match blocks ends in a fault. -/
theorem fault_unreached : Table.ofSnapshot unreached.builtInfo unreached.builtEntries = .ok unreached.built ∧
    ∃ chain ∈ unreached.built.chains, ∃ rule ∈ unreached.built.rulesOf chain,
      rule.record.matchWalk.fault = some (.invalidMatchSize 264 0) ∧ rule.decode.value = .ok fullyTold := by
  obtain ⟨chain, member, rule, inside, walk, -, -, read⟩ := unreached_told
  exact ⟨unreached_valid.accepted.2, chain, member, rule, inside, by rw [walk], read⟩

theorem bothRanges_laid : AddressRange.Laid bothRanges.padded 16 3 := ⟨.inr ⟨rfl, rfl⟩, rfl⟩

theorem bothRanges_asks (side : Side) : Rule.Asks bothRanges.padded side none := .foreign (by decide)

theorem shellClient_asks (side : Side) : ∃ asked, Rule.Asks shellClient.padded side (some asked) := by
  cases side with
  | source =>
    have holds : PortRange.Holds PortRange.tcp shellClient.padded.data .source 1024 65535 false :=
      ⟨rfl, rfl, 0, rfl, rfl⟩
    exact ⟨_, .range (by decide) rfl holds⟩
  | destination =>
    have holds : PortRange.Holds PortRange.tcp shellClient.padded.data .destination 22 22 false :=
      ⟨rfl, rfl, 0, rfl, rfl⟩
    exact ⟨_, .range (by decide) rfl holds⟩

theorem decode_of_fault_unreached : ∃ chain ∈ unreached.built.chains, ∃ rule ∈ unreached.built.rulesOf chain,
    rule.record.matchWalk.fault = some (.invalidMatchSize 264 0) ∧ ∃ decoded, rule.decode.value = .ok decoded := by
  obtain ⟨chain, member, rule, inside, walk, protocol, action, -⟩ := unreached_told
  have faulty : rule.record.matchWalk.fault = some (.invalidMatchSize 264 0) := by rw [walk]
  have blocks : rule.record.matchWalk.blocks = [bothRanges.padded, shellClient.padded] := by rw [walk]
  have range : rule.rangeBlocks = [bothRanges.padded] := by
    rw [Rule.rangeBlocks, blocks]
    rfl
  obtain ⟨reaches, -, -⟩ := rule.decode_of_fault faulty
  refine ⟨chain, member, rule, inside, faulty, reaches.mpr ⟨?_, fun side => ?_, ⟨_, protocol⟩, _, action⟩⟩
  · exact ⟨_, 16, 3, congrArg List.head? range, bothRanges_laid⟩
  · obtain ⟨asked, asks⟩ := shellClient_asks side
    exact ⟨[bothRanges.padded], _, [], asked, blocks, by simpa using bothRanges_asks side, asks⟩

end TableDraft

end FilterWatch
