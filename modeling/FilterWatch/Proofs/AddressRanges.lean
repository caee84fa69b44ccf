import FilterWatch.Proofs.AddressTexts
import FilterWatch.Proofs.BlockLayout
import FilterWatch.Proofs.DecodingFaults
import FilterWatch.Proofs.DraftAnatomy

/-! Which address a rule tells of a side when its match blocks ask for ranges. The first block on ranges decides,
even where it is silent on the side: then the header is told, whatever the blocks behind it ask for. -/

namespace FilterWatch
open Proofs.Outcomes

theorem Bytes.addressAt_of_slice? {region : Bytes} {offset : Nat} {address : Address}
    (there : region.slice? offset 4 = some address.octets) : region.addressAt offset = .ok address := by
  unfold addressAt slice
  rw [there]
  rfl

namespace Match.AddressRange

/-- The flag by which a block speaks of a side. -/
def enabledFlag : Side → UInt8
  | .source => sourceFlag
  | .destination => destinationFlag

def invertedFlag : Side → UInt8
  | .source => sourceInvertedFlag
  | .destination => destinationInvertedFlag

/-- Which of the four slots holds the lower end of a side's range; the next one holds the upper end. -/
def lowerSlot : Side → Nat
  | .source => 0
  | .destination => 2

/-- A block of a known revision, with the width of its slots, that is long enough for the flags behind them. -/
structure Laid (block : MatchBlock) (slot : Nat) (flags : UInt8) : Prop where
  width : block.revision = 0 ∧ slot = 4 ∨ block.revision = 1 ∧ slot = 16
  flags : block.data[4 * slot]? = some flags

/-- The flags of the block do not enable the side. -/
def Silent (block : MatchBlock) (side : Side) : Prop :=
  ∃ slot flags, Laid block slot flags ∧ flags &&& enabledFlag side = 0

/-- The flags of the block enable the side, and its slots hold the two ends of the range. -/
inductive Asks (block : MatchBlock) (side : Side) : AddressTest → Prop
  | range {slot : Nat} {flags : UInt8} {low high : Address} (laid : Laid block slot flags)
      (enabled : flags &&& enabledFlag side ≠ 0)
      (lower : block.data.slice? (lowerSlot side * slot) 4 = some low.octets)
      (upper : block.data.slice? ((lowerSlot side + 1) * slot) 4 = some high.octets) :
      Asks block side (.range low high (flags &&& invertedFlag side != 0))

variable {block : MatchBlock} {slot : Nat} {flags : UInt8} {side : Side} {asked : AddressTest}

theorem Laid.test_eq (laid : Laid block slot flags) : test block side =
    if flags &&& enabledFlag side = 0 then .ok none
    else do
      let low ← block.data.addressAt (lowerSlot side * slot)
      let high ← block.data.addressAt ((lowerSlot side + 1) * slot)
      return some (.range low high (flags &&& invertedFlag side != 0)) := by
  have width : slotWidth block.revision = .ok slot := by
    rcases laid.width with ⟨revision, rfl⟩ | ⟨revision, rfl⟩ <;> rw [revision] <;> rfl
  have long : 4 * slot < block.data.length := (List.getElem?_eq_some_iff.mp laid.flags).1
  have read := Bytes.byteAt_of_getElem? laid.flags
  unfold test
  simp only [width, ok_bind]
  rw [if_neg (Nat.not_le.mpr long), read]
  cases side <;> rfl

theorem test_of_silent (silent : Silent block side) : test block side = .ok none := by
  obtain ⟨slot, flags, laid, disabled⟩ := silent
  rw [laid.test_eq, if_pos disabled]

theorem test_of_asks (asks : Asks block side asked) : test block side = .ok (some asked) := by
  obtain ⟨laid, enabled, lower, upper⟩ := asks
  rw [laid.test_eq, if_neg enabled, Bytes.addressAt_of_slice? lower, ok_bind, Bytes.addressAt_of_slice? upper]
  rfl

end Match.AddressRange

namespace Rule
open Match

/-- The match blocks of a rule that are on ranges of addresses. -/
def rangeBlocks (rule : Rule) : List MatchBlock :=
  rule.record.matchWalk.blocks.filter (·.name = AddressRange.name)

variable {rule : Rule} {side : Side}

theorem rangeBlock_of_whole (whole : rule.record.matchWalk.fault = none) :
    rangeBlock rule.record.matchWalk = .ok rule.rangeBlocks.head? := by
  rw [rangeBlock, whole, rangeBlocks, List.head?_filter]
  cases rule.record.matchWalk.blocks.find? _ <;> rfl

theorem address_of_silent (whole : rule.record.matchWalk.fault = none) {base : AddressTest}
    (header : rule.headerTest side = .ok base)
    (silent : ∀ block ∈ rule.rangeBlocks.head?, AddressRange.Silent block side) :
    rule.address side = .ok base.text? := by
  unfold address addressTest
  rw [rangeBlock_of_whole whole, ok_bind]
  cases first : rule.rangeBlocks.head? with
  | none =>
    dsimp only
    rw [header]
    rfl
  | some block =>
    dsimp only
    rw [AddressRange.test_of_silent (silent block first), ok_bind]
    dsimp only
    rw [header]
    rfl

theorem address_of_asks (whole : rule.record.matchWalk.fault = none) {block : MatchBlock} {asked : AddressTest}
    (first : rule.rangeBlocks.head? = some block) (asks : AddressRange.Asks block side asked) :
    rule.address side = .ok asked.text? := by
  unfold address addressTest
  rw [rangeBlock_of_whole whole, first, ok_bind]
  dsimp only
  rw [AddressRange.test_of_asks asks]
  rfl

/-- Without a block on ranges that asks for one, a rule tells the network of its header. The first that does is told
exactly if no block on ranges stands before it; otherwise the rule tells the network as if there were none. -/
theorem address_of_ranges (rule : Rule) (whole : rule.record.matchWalk.fault = none) (side : Side) :
    ∃ address mask inverted, rule.record.address side = .ok address ∧ rule.record.mask side = .ok mask ∧
      rule.record.addressInverted side = .ok inverted ∧
      ((∀ block ∈ rule.rangeBlocks, AddressRange.Silent block side) →
        rule.address side = .ok (AddressTest.network address mask inverted).text?) ∧
      ∀ passed block rest asked, rule.rangeBlocks = passed ++ block :: rest →
        (∀ other ∈ passed, AddressRange.Silent other side) → AddressRange.Asks block side asked →
        (rule.address side = .ok asked.text? ↔ passed = []) ∧
        (passed ≠ [] → rule.address side = .ok (AddressTest.network address mask inverted).text?) := by
  have fields := rule.record.fieldsRead
  obtain ⟨address, readAddress⟩ := fields.address side
  obtain ⟨mask, readMask⟩ := fields.mask side
  obtain ⟨inverted, readInverted⟩ := fields.addressInverted side
  have header : rule.headerTest side = .ok (.network address mask inverted) := by
    rw [headerTest, readAddress, ok_bind, readMask, ok_bind, readInverted]
    rfl
  refine ⟨address, mask, inverted, readAddress, readMask, readInverted, fun silent => ?_, ?_⟩
  · exact address_of_silent whole header fun block first => silent block (List.mem_of_mem_head? first)
  · intro passed block rest asked blocks silent asks
    cases passed with
    | nil => exact ⟨iff_of_true (address_of_asks whole (by rw [blocks]; rfl) asks) rfl, fun other => absurd rfl other⟩
    | cons first others =>
      have front : rule.rangeBlocks.head? = some first := by
        rw [blocks]
        rfl
      have told : rule.address side = .ok (AddressTest.network address mask inverted).text? := by
        refine address_of_silent whole header fun block leading => ?_
        rw [front] at leading
        exact Option.some.inj leading ▸ silent first List.mem_cons_self
      obtain ⟨_, _, _, _⟩ := asks
      refine ⟨iff_of_false (fun same => ?_) (by simp), fun _ => told⟩
      exact AddressTest.network_text_ne_range _ _ _ _ _ _ (Except.ok.inj (told.symm.trans same))

end Rule

namespace TableDraft
open Match

/-- A block on ranges that holds four addresses. -/
def rangesOf (addresses : List Address) (flags : UInt8) : MatchBlock :=
  ⟨AddressRange.name, 1, addresses.flatMap (fun address => address.octets.padTo 16) ++ [flags]⟩

def destinationRange : MatchBlock := rangesOf [.unspecified, .unspecified, ⟨5, 5, 5, 1⟩, ⟨5, 5, 5, 9⟩] 2

def sourceRange : MatchBlock := rangesOf [⟨1, 2, 3, 4⟩, ⟨5, 6, 7, 8⟩, .unspecified, .unspecified] 1

/-- A rule that asks for a range of destinations, then for one of sources, and in its header for a network of
sources. -/
def ranged : TableDraft where
  name := "filter"
  builtins := [{
    hook := .input, policy := Verdict.drop
    rules := [{
      RuleDraft.unconditional (.verdict Verdict.accept) with
      source := ⟨10, 0, 0, 0⟩
      sourceMask := ⟨255, 0, 0, 0⟩
      blocks := [destinationRange.image, sourceRange.image] }] }]
  chains := []

theorem ranged_valid : ranged.Valid := by decide +kernel

theorem ranged_told : ∃ chain ∈ ranged.built.chains, ∃ rule ∈ ranged.built.rulesOf chain,
    rule.record.matchWalk = ⟨[destinationRange.padded, sourceRange.padded], none⟩ ∧
      rule.rangeBlocks = [destinationRange.padded, sourceRange.padded] ∧
      rule.address .source = .ok (some "10.0.0.0/8") := by
  decide +kernel

theorem ranged_silent : AddressRange.Silent destinationRange.padded .source :=
  ⟨16, 2, ⟨.inr ⟨rfl, rfl⟩, rfl⟩, by decide⟩

theorem ranged_asks : AddressRange.Asks sourceRange.padded .source (.range ⟨1, 2, 3, 4⟩ ⟨5, 6, 7, 8⟩ false) :=
  have laid : AddressRange.Laid sourceRange.padded 16 1 := ⟨.inr ⟨rfl, rfl⟩, rfl⟩
  .range laid (by decide) (by decide +kernel) (by decide +kernel)

/-- A range of sources that a rule asks for is not told, since a block that is silent on the source stands before it. -/
theorem range_overlooked : Table.ofSnapshot ranged.builtInfo ranged.builtEntries = .ok ranged.built ∧
    ∃ chain ∈ ranged.built.chains, ∃ rule ∈ ranged.built.rulesOf chain, rule.record.matchWalk.fault = none ∧
      ∃ silent block, rule.rangeBlocks = [silent, block] ∧ AddressRange.Silent silent .source ∧
        AddressRange.Asks block .source (.range ⟨1, 2, 3, 4⟩ ⟨5, 6, 7, 8⟩ false) ∧
        AddressTest.text? (.range ⟨1, 2, 3, 4⟩ ⟨5, 6, 7, 8⟩ false) = some "1.2.3.4-5.6.7.8" ∧
        rule.address .source = .ok (some "10.0.0.0/8") := by
  obtain ⟨chain, member, rule, inside, walk, blocks, told⟩ := ranged_told
  exact ⟨ranged_valid.accepted.2, chain, member, rule, inside, by rw [walk], _, _, blocks, ranged_silent, ranged_asks,
    by decide +kernel, told⟩

theorem address_of_ranges_overlooked : ∃ chain ∈ ranged.built.chains, ∃ rule ∈ ranged.built.rulesOf chain,
    rule.record.matchWalk.fault = none ∧ ∃ address mask inverted, rule.record.address .source = .ok address ∧
      rule.record.mask .source = .ok mask ∧
      rule.address .source = .ok (AddressTest.network address mask inverted).text? ∧
      rule.address .source ≠ .ok (AddressTest.range ⟨1, 2, 3, 4⟩ ⟨5, 6, 7, 8⟩ false).text? := by
  obtain ⟨chain, member, rule, inside, walk, blocks, _⟩ := ranged_told
  have whole : rule.record.matchWalk.fault = none := by rw [walk]
  obtain ⟨address, mask, inverted, readAddress, readMask, _, _, asked⟩ := rule.address_of_ranges whole .source
  obtain ⟨range, network⟩ := asked [_] _ [] _ blocks (by simpa using ranged_silent) ranged_asks
  exact ⟨chain, member, rule, inside, whole, address, mask, inverted, readAddress, readMask, network (by simp),
    fun same => absurd (range.mp same) (by simp)⟩

end TableDraft

end FilterWatch
