import FilterWatch.Proofs.TargetFaults

/-! Why a rule cannot be read. The fields in the header of its record can always be, so what is left are the
match blocks, the number of the protocol, and the target with its verdict. -/

namespace FilterWatch
open Proofs.Outcomes

theorem Bytes.addressAt_within {region : Bytes} {offset : Nat} (inside : offset + 4 ≤ region.length) :
    ∃ address, region.addressAt offset = .ok address := by
  rw [addressAt, slice_eq_ok.mpr ⟨inside, rfl⟩]
  exact ⟨_, rfl⟩

namespace Record

/-- The fields in the header of a record that tell addresses and a protocol can be read. -/
structure FieldsRead (record : Record) : Prop where
  address : ∀ side, ∃ address, record.address side = .ok address
  mask : ∀ side, ∃ mask, record.mask side = .ok mask
  addressInverted : ∀ side, ∃ inverted, record.addressInverted side = .ok inverted
  protocol : ∃ number, record.protocol = .ok number
  protocolInverted : ∃ inverted, record.protocolInverted = .ok inverted
  isGoto : ∃ goto, record.isGoto = .ok goto

theorem fieldsRead (record : Record) : record.FieldsRead := by
  have long : 112 ≤ record.bytes.length := record.headerSize_le
  have inverted : ∃ flags, record.bytes.byteAt 83 = .ok flags := Bytes.byteAt_within (by omega)
  obtain ⟨flags, read⟩ := inverted
  refine ⟨fun side => ?_, fun side => ?_, fun side => ?_, Bytes.word16At_within (by omega), ?_, record.isGoto_total⟩
  · cases side <;> exact Bytes.addressAt_within (by omega)
  · cases side <;> exact Bytes.addressAt_within (by omega)
  · exact ⟨_, by unfold addressInverted; rw [read]; rfl⟩
  · exact ⟨_, by unfold protocolInverted; rw [read]; rfl⟩

end Record

theorem Protocol.text?_eq_error {number : UInt16} {inverted : Bool} {error : LayoutError} :
    text? number inverted = .error error ↔
      (number ≠ 0 ∧ number ≠ 6 ∧ number ≠ 17 ∧ number ≠ 1) ∧ error = .unsupportedProtocol number := by
  by_cases any : number = 0
  · simp [text?, any]
  by_cases tcp : number = 6
  · simp [text?, tcp]
  by_cases udp : number = 17
  · simp [text?, udp]
  by_cases icmp : number = 1
  · simp [text?, icmp]
  · simp [text?, any, tcp, udp, icmp, eq_comm]

/-- What there is to blame for a failure of a match block: its own contents, by the reader of its name. -/
inductive MatchBlock.Refuses (block : MatchBlock) : LayoutError → Prop
  | addressRange {side : Side} {error : LayoutError} (named : block.name = Match.AddressRange.name)
      (failed : Match.AddressRange.test block side = .error error) : Refuses block error
  | portRange {form : Match.PortRange.Form} {side : Side} {error : LayoutError}
      (known : form = Match.PortRange.tcp ∨ form = Match.PortRange.udp) (named : block.name = form.name)
      (failed : Match.PortRange.test form block side = .error error) : Refuses block error
  | portList {side : Side} {error : LayoutError} (named : block.name = Match.PortList.name)
      (failed : (Match.PortList.testOf block side).value = .error error) : Refuses block error

namespace Rule

/-- What there is to blame for a rule that cannot be read. -/
inductive Blames (rule : Rule) : LayoutError → Prop
  /-- The match blocks are not laid out one after the other. -/
  | layout {error : LayoutError} (fault : rule.record.matchWalk.fault = some error) : Blames rule error
  | block {error : LayoutError} (block : MatchBlock) (member : block ∈ rule.record.matchWalk.blocks)
      (refuses : block.Refuses error) : Blames rule error
  | protocol {number : UInt16} (read : rule.record.protocol = .ok number)
      (unknown : number ≠ 0 ∧ number ≠ 6 ∧ number ≠ 17 ∧ number ≠ 1) : Blames rule (.unsupportedProtocol number)
  /-- The target is malformed, or its verdict is, or the verdict leads nowhere. -/
  | target {error : LayoutError} (failed : rule.target = .error error) : Blames rule error
  | noTarget (missing : rule.record.target = .ok none) : Blames rule (.missingTarget rule.record.offset)

variable {rule : Rule} {error : LayoutError}

theorem headerTest_ne_error (side : Side) : rule.headerTest side ≠ .error error := by
  have fields := rule.record.fieldsRead
  obtain ⟨address, readAddress⟩ := fields.address side
  obtain ⟨mask, readMask⟩ := fields.mask side
  obtain ⟨inverted, readInverted⟩ := fields.addressInverted side
  rw [headerTest, readAddress, ok_bind, readMask, ok_bind, readInverted]
  nofun

theorem rangeBlock_eq_error {walk : MatchWalk} (failed : rangeBlock walk = .error error) : walk.fault = some error := by
  unfold rangeBlock at failed
  split at failed
  · cases failed
  next faulty =>
    cases failed
    exact faulty
  · cases failed

theorem rangeBlock_eq_some {walk : MatchWalk} {block : MatchBlock} (found : rangeBlock walk = .ok (some block)) :
    walk.blocks.find? (·.name = Match.AddressRange.name) = some block := by
  unfold rangeBlock at found
  split at found
  next first =>
    cases found
    exact first
  · cases found
  · cases found

theorem blames_of_address {side : Side} (failed : rule.address side = .error error) : rule.Blames error := by
  rw [address, map_eq_error, addressTest] at failed
  rcases bind_eq_error.mp failed with failed | ⟨found, searched, failed⟩
  · exact .layout (rangeBlock_eq_error failed)
  · cases found with
    | none => exact absurd failed (headerTest_ne_error side)
    | some block =>
      have first := rangeBlock_eq_some searched
      rcases bind_eq_error.mp failed with failed | ⟨test, _, failed⟩
      · exact .block block (List.mem_of_find?_eq_some first)
          (.addressRange (by simpa using List.find?_some first) failed)
      · cases test with
        | none => exact absurd failed (headerTest_ne_error side)
        | some test => cases failed

theorem refuses_of_blockPorts {chain : String} {block : MatchBlock} {side : Side}
    (failed : (blockPorts chain block side).value = .error error) : block.Refuses error := by
  unfold blockPorts at failed
  split at failed
  next named => exact .portRange (.inl rfl) named failed
  split at failed
  next named => exact .portRange (.inr rfl) named failed
  split at failed
  next named => exact .portList named failed
  · cases failed

theorem blames_of_firstPortTest {chain : String} {side : Side} {blocks : List MatchBlock}
    (own : ∀ block ∈ blocks, block ∈ rule.record.matchWalk.blocks)
    (failed : (firstPortTest chain side rule.record.matchWalk.fault blocks).value = .error error) :
    rule.Blames error := by
  induction blocks with
  | nil =>
    cases fault : rule.record.matchWalk.fault with
    | none =>
      rw [fault] at failed
      cases failed
    | some reason =>
      rw [fault] at failed
      cases failed
      exact .layout fault
  | cons block rest ih =>
    rw [firstPortTest, Attempt.value_bind] at failed
    rcases bind_eq_error.mp failed with failed | ⟨test, _, failed⟩
    · exact .block block (own block (by simp)) (refuses_of_blockPorts failed)
    · cases test with
      | none => exact ih (fun other member => own other (by simp [member])) failed
      | some test => cases failed

theorem blames_of_port {side : Side} (failed : (rule.port side).value = .error error) : rule.Blames error := by
  rw [port, Attempt.value_map, map_eq_error] at failed
  exact blames_of_firstPortTest (fun _ member => member) failed

theorem blames_of_protocol (failed : rule.protocol = .error error) : rule.Blames error := by
  have fields := rule.record.fieldsRead
  obtain ⟨number, read⟩ := fields.protocol
  obtain ⟨inverted, flag⟩ := fields.protocolInverted
  rw [protocol, read, ok_bind, flag, ok_bind] at failed
  obtain ⟨unknown, rfl⟩ := Protocol.text?_eq_error.mp failed
  exact .protocol read unknown

theorem blames_of_action (failed : rule.action = .error error) : rule.Blames error := by
  obtain ⟨goto, flag⟩ := rule.record.isGoto_total
  rw [action] at failed
  rcases bind_eq_error.mp failed with failed | ⟨name, named, failed⟩
  · exact .target failed
  · rw [flag, ok_bind] at failed
    cases name with
    | none =>
      cases failed
      exact .noTarget (Record.target_eq_none.mpr (Table.verdictName_eq_none.mp named))
    | some name =>
      obtain ⟨action, decided⟩ := Action.ofVerdict_some name goto rule.record.offset
      cases decided.symm.trans failed

/-- A rule that cannot be read has its match blocks, its protocol or its target to blame. -/
theorem blames_of_decode (failed : rule.decode.value = .error error) : rule.Blames error := by
  simp only [decode, Attempt.value_bind, Attempt.value_ofExcept] at failed
  rcases bind_eq_error.mp failed with failed | ⟨_, _, failed⟩
  · exact blames_of_address failed
  rcases bind_eq_error.mp failed with failed | ⟨_, _, failed⟩
  · exact blames_of_address failed
  rcases bind_eq_error.mp failed with failed | ⟨_, _, failed⟩
  · exact blames_of_port failed
  rcases bind_eq_error.mp failed with failed | ⟨_, _, failed⟩
  · exact blames_of_port failed
  rcases bind_eq_error.mp failed with failed | ⟨_, _, failed⟩
  · exact blames_of_protocol failed
  rcases bind_eq_error.mp failed with failed | ⟨_, _, failed⟩
  · exact blames_of_action failed
  · cases failed

end Rule

end FilterWatch
