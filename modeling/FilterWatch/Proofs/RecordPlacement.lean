import FilterWatch.Proofs.BlockLayout
import FilterWatch.Proofs.DraftTargets

/-! The bytes that a rule is laid out as, read wherever they stand. What surrounds them decides only the offset
that the record reports: header, match blocks and target are those of the rule. -/

namespace FilterWatch
open Proofs.Outcomes

theorem Bytes.addressAt_middle (before : Bytes) (address : Address) (after : Bytes) {offset : Nat}
    (starts : before.length = offset) : (before ++ address.octets ++ after).addressAt offset = .ok address := by
  have octets : (before ++ address.octets ++ after).slice offset 4 = .ok address.octets :=
    slice_middle before address.octets after starts rfl
  rw [addressAt, octets]
  rfl

namespace Record

/-- The record with its bytes at another place. -/
def moved (record : Record) (offset : Nat) : Record := { record with offset }

variable {record other : Record} {place : Nat}

theorem Announced.moved (announced : record.Announced) : (record.moved place).Announced :=
  ⟨announced.target, announced.size, announced.short⟩

/-- Only an error tells where the record stands. -/
theorem target_congr {found : Option Target} (bytes : other.bytes = record.bytes)
    (start : other.targetOffset = record.targetOffset) (read : record.target = .ok found) :
    other.target = .ok found := by
  have size : other.size = record.size := congrArg List.length bytes
  unfold target at read ⊢
  rw [bytes, start, size]
  split at read
  next noRoom => rwa [if_pos noRoom]
  next room =>
    obtain ⟨declared, word, read⟩ := bind_eq_ok.mp read
    rw [if_neg room, word, ok_bind]
    dsimp only at read ⊢
    split at read
    · cases read
    next fits => rwa [if_neg fits]

theorem target_moved {found : Option Target} (read : record.target = .ok found) :
    (record.moved place).target = .ok found := by
  have bytes : (record.moved place).bytes = record.bytes := rfl
  exact target_congr bytes rfl read

theorem parse_moved (announced : record.Announced) (before after : Bytes) :
    parse (before ++ record.bytes ++ after) before.length = .ok (record.moved before.length) :=
  parse_eq_ok.mpr ⟨rfl, Bytes.slice_middle before record.bytes after rfl rfl, announced.moved⟩

end Record

namespace RuleDraft

/-- Whether the rule's target is entered without return. -/
def goes (rule : RuleDraft) : Bool :=
  match rule.target with
  | .goto _ => true
  | _ => false

/-- The targets that a record can hold. Where a jump leads has to be known and to fit a verdict's code. -/
def Held (startOf : String → Except DraftError Nat) : TargetDraft → Prop
  | .verdict _ | .fallthrough => True
  | .jump chain | .goto chain => ∃ start, startOf chain = .ok start ∧ start < 2147483648
  | .extension name _ => name ≠ "" ∧ (Bytes.ofText name).length ≤ 28 ∧ 0 ∉ Bytes.ofText name
  | .head _ => False

/-- A rule whose match blocks are laid out from the given ones, small enough for a record at the offset. -/
structure Encodable (rule : RuleDraft) (blocks : List MatchBlock) (startOf : String → Except DraftError Nat)
    (offset : Nat) : Prop where
  laid : (blocks.mapM fun block => Draft.block block.name block.revision block.data) = .ok rule.blocks
  named : ∀ block ∈ blocks, block.Named
  held : Held startOf rule.target
  short : rule.size ≤ 65535
  low : offset + rule.size < 2147483648

/-- What the fields of the header tell is what the rule asks for. -/
structure HeaderRead (rule : RuleDraft) (record : Record) : Prop where
  source : record.address .source = .ok rule.source
  destination : record.address .destination = .ok rule.destination
  sourceMask : record.mask .source = .ok rule.sourceMask
  destinationMask : record.mask .destination = .ok rule.destinationMask
  sourceInverted : record.addressInverted .source = .ok rule.sourceInverted
  destinationInverted : record.addressInverted .destination = .ok rule.destinationInverted
  protocol : record.protocol = .ok rule.protocol
  protocolInverted : record.protocolInverted = .ok rule.protocolInverted
  goes : record.isGoto = .ok rule.goes

/-- The target that a rule asks for when the next record is at an offset. -/
def Asks (rule : RuleDraft) (startOf : String → Except DraftError Nat) (next : Nat) (target : Target) : Prop :=
  match rule.target with
  | .verdict code => target.isStandard = true ∧ target.verdict = .ok code
  | .jump chain | .goto chain => target.isStandard = true ∧
      ∃ start code, startOf chain = .ok start ∧ target.verdict = .ok code ∧ code.toInt = start
  | .fallthrough => target.isStandard = true ∧ ∃ code, target.verdict = .ok code ∧ code.toInt = next
  | .extension name data => target.isStandard = false ∧ target = ⟨name, 0, data.padTo (Draft.align data.length)⟩
  | .head _ => False

variable {rule : RuleDraft} {blocks : List MatchBlock} {startOf : String → Except DraftError Nat} {offset : Nat}
  {record : Record} {rest : Bytes}

private theorem inversionFlags_read (rule : RuleDraft) :
    (rule.inversionFlags &&& Record.sourceInvertedFlag != 0) = rule.sourceInverted ∧
      (rule.inversionFlags &&& Record.destinationInvertedFlag != 0) = rule.destinationInverted ∧
      (rule.inversionFlags &&& Record.protocolInvertedFlag != 0) = rule.protocolInverted := by
  unfold inversionFlags
  cases rule.sourceInverted <;> cases rule.destinationInverted <;> cases rule.protocolInverted <;> decide

private theorem flags_read (rule : RuleDraft) : (rule.flags &&& Record.gotoFlag != 0) = rule.goes := by
  have same : rule.flags = if rule.goes then Record.gotoFlag else 0 := by
    unfold flags goes
    cases rule.target <;> rfl
  rw [same]
  cases rule.goes <;> decide

theorem headerRead (bytes : record.bytes = rule.header ++ rest) : rule.HeaderRead record := by
  -- The addresses stand in front; the names of the interfaces come before the words.
  have addresses : ∃ behind, record.bytes = rule.source.octets ++ (rule.destination.octets ++
      (rule.sourceMask.octets ++ (rule.destinationMask.octets ++ behind))) := by
    simp only [bytes, header, List.append_assoc]
    exact ⟨_, rfl⟩
  have words : ∃ front behind, front.length = 80 ∧ record.bytes = front ++ (Bytes.ofNat 2 rule.protocol.toNat ++
      ([rule.flags] ++ ([rule.inversionFlags] ++ behind))) := by
    simp only [bytes, header, List.append_assoc, Bytes.ofWord16]
    exact ⟨rule.source.octets ++ rule.destination.octets ++ rule.sourceMask.octets ++ rule.destinationMask.octets ++
      Bytes.zeros 64, _, rfl, by simp only [List.append_assoc]; rfl⟩
  obtain ⟨behind, addresses⟩ := addresses
  obtain ⟨front, others, length, words⟩ := words
  have protocol : record.bytes.word16At 80 = .ok (UInt16.ofNat rule.protocol.toNat) := by
    rw [words, ← List.append_assoc]
    exact Bytes.word16At_middle front _ _ length
  have flags : record.bytes.byteAt 82 = .ok rule.flags := by
    rw [words, ← List.append_assoc, ← List.append_assoc]
    exact Bytes.byteAt_middle _ _ _ (by rw [List.length_append, length, Bytes.length_ofNat])
  have inversions : record.bytes.byteAt 83 = .ok rule.inversionFlags := by
    rw [words, ← List.append_assoc, ← List.append_assoc, ← List.append_assoc]
    exact Bytes.byteAt_middle _ _ _ (by
      simp only [List.length_append, length, Bytes.length_ofNat, List.length_singleton])
  obtain ⟨source, destination, inverted⟩ := rule.inversionFlags_read
  have fourth : ∀ address : Address, address.octets.length = 4 := fun _ => rfl
  refine {
    source := ?_, destination := ?_, sourceMask := ?_, destinationMask := ?_
    sourceInverted := ?_, destinationInverted := ?_, protocol := ?_, protocolInverted := ?_, goes := ?_ }
  · rw [Record.address, addresses]
    exact Bytes.addressAt_middle [] _ _ rfl
  · rw [Record.address, addresses, ← List.append_assoc]
    exact Bytes.addressAt_middle _ _ _ rfl
  · rw [Record.mask, addresses, ← List.append_assoc, ← List.append_assoc]
    exact Bytes.addressAt_middle _ _ _ rfl
  · rw [Record.mask, addresses, ← List.append_assoc, ← List.append_assoc, ← List.append_assoc]
    exact Bytes.addressAt_middle _ _ _ rfl
  · rw [Record.addressInverted, inversions]
    exact congrArg Except.ok source
  · rw [Record.addressInverted, inversions]
    exact congrArg Except.ok destination
  · rw [Record.protocol, protocol, UInt16.ofNat_toNat]
  · rw [Record.protocolInverted, inversions]
    exact congrArg Except.ok inverted
  · rw [Record.isGoto, flags]
    exact congrArg Except.ok rule.flags_read

/-- The target of a rule that a record can hold, in the record that the rule becomes. -/
theorem exists_content (given : rule.Encodable blocks startOf offset) :
    ∃ name data target, rule.Content startOf offset name data ∧
      (rule.image startOf offset).target = .ok (some target) ∧ rule.Asks startOf (offset + rule.size) target := by
  have short : rule.size < 65536 := Nat.lt_succ_of_le given.short
  have held := given.held
  cases kind : rule.target with
  | verdict code =>
    have content : rule.Content startOf offset _ _ := content_of_verdict kind
    obtain ⟨target, found, decided⟩ := image_verdict kind short
    exact ⟨_, _, target, content, found, by simpa only [Asks, kind] using decided⟩
  | jump chain | goto chain =>
    rw [kind] at held
    obtain ⟨start, starts, small⟩ := held
    have content : rule.Content startOf offset _ _ := content_of_jump (by simp [kind]) starts
    obtain ⟨target, found, standard, decided⟩ := content.image_standard short
    refine ⟨_, _, target, content, found, ?_⟩
    simp only [Asks, kind]
    exact ⟨standard, start, _, starts, decided, toInt_ofNat small⟩
  | «fallthrough» =>
    have content : rule.Content startOf offset _ _ := content_of_fallthrough kind
    obtain ⟨target, found, standard, decided⟩ := content.image_standard short
    refine ⟨_, _, target, content, found, ?_⟩
    simp only [Asks, kind]
    exact ⟨standard, _, decided, toInt_ofNat given.low⟩
  | extension name data =>
    rw [kind] at held
    obtain ⟨nonempty, named, plain⟩ := held
    have content : rule.Content startOf offset name data := content_of_extension kind named plain
    have room : rule.targetSize - Record.blockHeaderSize = Draft.align data.length := by
      simp only [targetSize, kind, Nat.add_sub_cancel_left]
    refine ⟨name, data, _, content, content.image_target short, ?_⟩
    simp only [Asks, kind, room]
    exact ⟨by simp [Target.isStandard, Record.standardTarget, nonempty], trivial⟩
  | head chain =>
    rw [kind] at held
    exact held.elim

/-- A rule is laid out in as many bytes as it says. Wherever these bytes stand, behind any others and before any
others, they are read as one record, of which only the offset depends on its place: with the header that the
rule describes, with its match blocks in order and none besides, and with the target that it asks for. -/
theorem encoded_read_back (given : rule.Encodable blocks startOf offset) :
    ∃ bytes target, rule.encode startOf offset = .ok bytes ∧ bytes.length = rule.size ∧
      rule.Asks startOf (offset + rule.size) target ∧
      ∀ before after, ∃ record, Record.parse (before ++ bytes ++ after) before.length = .ok record ∧
        record.offset = before.length ∧ record.size = rule.size ∧ rule.HeaderRead record ∧
        record.matchWalk = ⟨blocks.map MatchBlock.padded, none⟩ ∧ record.target = .ok (some target) := by
  obtain ⟨name, data, target, content, found, asked⟩ := exists_content given
  have short : rule.size < 65536 := Nat.lt_succ_of_le given.short
  have images : rule.blocks = blocks.map MatchBlock.image := by
    have each := mapM_of_ok fun block member => MatchBlock.draft_eq (given.named block member)
    exact Except.ok.inj (given.laid.symm.trans each)
  have front : rule.header.length = Record.headerSize := rule.length_header
  refine ⟨(rule.image startOf offset).bytes, target, content.encode, content.image_size, asked, fun before after => ?_⟩
  let record := (rule.image startOf offset).moved before.length
  have bytes : record.bytes = rule.header ++ blocks.flatMap MatchBlock.image ++ rule.filledTarget name data := by
    rw [List.flatMap_def, ← images]
    exact content.image_bytes
  have ends : record.targetOffset = rule.header.length + (blocks.flatMap MatchBlock.image).length := by
    rw [List.flatMap_def, ← images, front]
    rfl
  have walk := Record.matchesFrom_images given.named bytes ends (Nat.lt_of_le_of_lt (Nat.le_add_right _ _) short)
  rw [front] at walk
  have read : record.target = .ok (some target) := Record.target_moved found
  rw [List.append_assoc] at bytes
  exact ⟨record, Record.parse_moved (content.image_announced short) before after, rfl, content.image_size,
    headerRead bytes, walk, read⟩

/-- A rule with two match blocks, one of which needs padding, that goes to a chain. -/
def guarded : RuleDraft :=
  { unconditional (.goto "web") with
    source := ⟨10, 0, 0, 0⟩
    sourceMask := ⟨255, 0, 0, 0⟩
    sourceInverted := true
    protocol := 6
    blocks := guardedBlocks.map MatchBlock.image }
where
  guardedBlocks : List MatchBlock := [⟨"comment", 0, [119, 101, 98]⟩, ⟨"multiport", 1, Bytes.zeros 48⟩]

theorem encoded_read_back_guarded :
    guarded.Encodable guarded.guardedBlocks (fun _ => .ok 1000) 152 ∧
      ∃ bytes record target, guarded.encode (fun _ => .ok 1000) 152 = .ok bytes ∧ bytes.length = 272 ∧
        Record.parse ([1, 2, 3] ++ bytes ++ [4]) 3 = .ok record ∧ record.address .source = .ok ⟨10, 0, 0, 0⟩ ∧
        record.matchWalk = ⟨[⟨"comment", 0, [119, 101, 98, 0, 0, 0, 0, 0]⟩, ⟨"multiport", 1, Bytes.zeros 48⟩], none⟩ ∧
        record.isGoto = .ok true ∧ record.target = .ok (some target) ∧ target.isStandard = true := by
  have given : guarded.Encodable guarded.guardedBlocks (fun _ => .ok 1000) 152 := {
    laid := by decide +kernel
    named := by
      intro block member
      simp only [guarded.guardedBlocks, List.mem_cons, List.not_mem_nil, or_false] at member
      rcases member with rfl | rfl <;> exact ⟨by decide, by decide⟩
    held := ⟨1000, rfl, by decide⟩
    short := by decide +kernel
    low := by decide +kernel }
  obtain ⟨bytes, target, encoded, length, asked, read⟩ := encoded_read_back given
  obtain ⟨record, parsed, _, _, header, walk, found⟩ := read [1, 2, 3] [4]
  refine ⟨given, bytes, record, target, encoded, ?_, parsed, header.source, ?_, header.goes, found, asked.1⟩
  · rw [length]
    decide +kernel
  · rw [walk]
    decide +kernel

end RuleDraft

end FilterWatch
