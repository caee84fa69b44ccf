import FilterWatch.Proofs.AddressRanges
import FilterWatch.Proofs.PortLists
import FilterWatch.Proofs.PortRanges

/-! Blocks that come in two forms: ranges of addresses in narrow and in wide slots, ranges of ports with their flags at
two places, lists of ports without marks and with none set. What is laid out from the same values is told alike. -/

namespace FilterWatch
open Proofs.Outcomes

/-- Which of two values is that of a side. -/
def Side.choose (side : Side) (source destination : α) : α :=
  match side with
  | .source => source
  | .destination => destination

/-- The four numbers of an address, with points between them. -/
def Address.dotted (address : Address) : String :=
  address.first.toNat.repr ++ "." ++ address.second.toNat.repr ++ "." ++ address.third.toNat.repr ++ "." ++
    address.fourth.toNat.repr

namespace MatchBlock

/-- The layout succeeds, and its bytes are read as the block wherever they stand before the target of a record. -/
def LaidOut (block : MatchBlock) (layout : Except DraftError Bytes) : Prop :=
  ∃ bytes, layout = .ok bytes ∧ ∀ (record : Record) (before after : Bytes), record.bytes = before ++ bytes ++ after →
    before.length + bytes.length ≤ record.targetOffset → record.matchAt before.length = .ok block

theorem named_of_reader {block : MatchBlock}
    (read : block.name ∈ [Match.AddressRange.name, Match.PortRange.tcp.name, Match.PortRange.udp.name,
      Match.PortList.name]) : block.Named := by
  have each : ∀ name ∈ [Match.AddressRange.name, Match.PortRange.tcp.name, Match.PortRange.udp.name,
      Match.PortList.name], (Bytes.ofText name).length ≤ 28 ∧ 0 ∉ Bytes.ofText name := by decide
  obtain ⟨short, plain⟩ := each block.name read
  exact ⟨short, plain⟩

theorem laidOut_padded {block : MatchBlock} (named : block.Named) (small : block.data.length ≤ 65496) :
    block.padded.LaidOut (Draft.block block.name block.revision block.data) := by
  refine ⟨block.image, draft_eq named, ?_⟩
  intro record before after bytes inside
  rw [length_image named] at inside
  apply Record.matchAt_image named bytes inside
  have blocks : block.padded.size = 32 + (block.data.length + 7) / 8 * 8 := congrArg (32 + ·) block.length_padded
  omega

end MatchBlock

namespace Match

namespace AddressRange

/-- The text of what a block asks of one side. -/
def textOf (block : MatchBlock) (side : Side) : Except LayoutError (Option String) :=
  (test block side).map fun asked => asked.bind AddressTest.text?

def drafted (revision : UInt8) (slot : Nat) (flags : UInt8) (source destination : Draft.AddressPair) : MatchBlock :=
  ⟨name, revision, [source.1, source.2, destination.1, destination.2].flatMap (·.octets.padTo slot) ++ [flags]⟩

/-- The text of the range of a side, if the flag of the side is set: the lower address, a dash and the upper one, in
brackets behind the sign of the inversion if the side's flag for that is set too. -/
def rangeText? (flags : UInt8) (side : Side) (ends : Draft.AddressPair) : Option String :=
  if flags &&& side.choose 0x01 0x02 = 0 then none
  else some (enclosed (flags &&& side.choose 0x10 0x20 != 0) (ends.1.dotted ++ "-" ++ ends.2.dotted))

theorem enabledFlag_eq (side : Side) : enabledFlag side = side.choose 0x01 0x02 := by
  cases side <;> rfl

theorem invertedFlag_eq (side : Side) : invertedFlag side = side.choose 0x10 0x20 := by
  cases side <;> rfl

theorem range_text_dotted (low high : Address) (inverted : Bool) : (AddressTest.range low high inverted).text? =
    some (enclosed inverted (low.dotted ++ "-" ++ high.dotted)) :=
  congrArg some (AddressTest.rangeText_eq low high inverted)

variable {revision : UInt8} {slot : Nat} (known : revision = 0 ∧ slot = 4 ∨ revision = 1 ∧ slot = 16)
  (flags : UInt8) (source destination : Draft.AddressPair)
include known

theorem drafted_laidOut : (drafted revision slot flags source destination).padded.LaidOut
    (Draft.addressRangeBlock revision slot flags source destination) := by
  have length : (drafted revision slot flags source destination).data.length = 4 * slot + 1 := by
    rcases known with ⟨-, rfl⟩ | ⟨-, rfl⟩ <;> rfl
  apply MatchBlock.laidOut_padded (MatchBlock.named_of_reader List.mem_cons_self)
  omega

theorem drafted_laid : Laid (drafted revision slot flags source destination).padded slot flags := by
  refine ⟨known, ?_⟩
  rcases known with ⟨-, rfl⟩ | ⟨-, rfl⟩ <;> rfl

theorem textOf_drafted (side : Side) : textOf (drafted revision slot flags source destination).padded side =
    .ok (rangeText? flags side (side.choose source destination)) := by
  have laid := drafted_laid known flags source destination
  rw [rangeText?, ← enabledFlag_eq, ← invertedFlag_eq]
  by_cases disabled : flags &&& enabledFlag side = 0
  · rw [textOf, test_of_silent ⟨slot, flags, laid, disabled⟩, if_pos disabled]
    rfl
  · have asks : Asks (drafted revision slot flags source destination).padded side
        (.range (side.choose source destination).1 (side.choose source destination).2
          (flags &&& invertedFlag side != 0)) := by
      rcases known with ⟨-, rfl⟩ | ⟨-, rfl⟩
      · cases side <;> exact .range laid disabled rfl rfl
      · cases side <;> exact .range laid disabled rfl rfl
    rw [textOf, test_of_asks asks, if_neg disabled]
    exact congrArg Except.ok (range_text_dotted _ _ _)

end AddressRange

namespace PortRange

variable (source destination : Draft.PortPair) (flags : UInt8)

/-- The text of the range of a side, unless it is that of all ports: one port with a blank, or the lower port, a dash
and the upper one, in brackets behind the sign of the inversion if the side's flag for that is set. -/
def rangeText? (flags : UInt8) (side : Side) (ends : Draft.PortPair) : Option String :=
  if ends.1 = 0 ∧ ends.2 = 65535 then none
  else if ends.1 = ends.2 then some (ends.1.toNat.repr ++ " ")
  else some (enclosed (flags &&& side.choose 0x01 0x02 != 0) (ends.1.toNat.repr ++ "-" ++ ends.2.toNat.repr))

theorem rangeText?_eq (side : Side) (ends : Draft.PortPair) : rangeText? flags side ends =
    (PortTest.ofRange? ends.1 ends.2 (flags &&& invertedFlag side != 0)).map PortTest.text := by
  have flag : invertedFlag side = side.choose 0x01 0x02 := by cases side <;> rfl
  rw [rangeText?, PortTest.ofRange?, flag]
  split
  · rfl
  · rw [Option.map_some]
    split
    next one => rw [← one, PortTest.text_one]
    next several => rw [PortTest.text_several several]

def tcpDrafted : MatchBlock := ⟨tcp.name, 0, Draft.portPairData source destination ++ Bytes.zeros 3 ++ [flags]⟩

def udpDrafted : MatchBlock := ⟨udp.name, 0, Draft.portPairData source destination ++ [flags] ++ Bytes.zeros 1⟩

theorem tcpDrafted_laidOut :
    (tcpDrafted source destination flags).padded.LaidOut (Draft.tcpBlock source destination flags) := by
  apply MatchBlock.laidOut_padded (MatchBlock.named_of_reader (by simp [tcpDrafted]))
  have length : (tcpDrafted source destination flags).data.length = 12 := rfl
  omega

theorem udpDrafted_laidOut :
    (udpDrafted source destination flags).padded.LaidOut (Draft.udpBlock source destination flags) := by
  apply MatchBlock.laidOut_padded (MatchBlock.named_of_reader (by simp [udpDrafted]))
  have length : (udpDrafted source destination flags).data.length = 10 := rfl
  omega

theorem tcpDrafted_holds (side : Side) : Holds tcp (tcpDrafted source destination flags).padded.data side
    (side.choose source destination).1 (side.choose source destination).2 (flags &&& invertedFlag side != 0) := by
  cases side <;> exact ⟨rfl, rfl, flags, rfl, rfl⟩

theorem udpDrafted_holds (side : Side) : Holds udp (udpDrafted source destination flags).padded.data side
    (side.choose source destination).1 (side.choose source destination).2 (flags &&& invertedFlag side != 0) := by
  cases side <;> exact ⟨rfl, rfl, flags, rfl, rfl⟩

theorem textOf_drafted {form : Form} {block : MatchBlock} {side : Side} {ends : Draft.PortPair}
    (holds : Holds form block.data side ends.1 ends.2 (flags &&& invertedFlag side != 0)) :
    textOf form block side = .ok (rangeText? flags side ends) := by
  rw [textOf_of_holds holds, rangeText?_eq]

end PortRange

namespace PortList

variable (selector : UInt8) (ports : List UInt16)

/-- The beginning of a list's data: the side, the count, and the ports. -/
def front : Bytes := [selector, UInt8.ofNat ports.length] ++ ports.flatMap Bytes.ofWord16

def draftedData (size : Nat) : Bytes := (front selector ports).padTo size

def plainDrafted : MatchBlock := ⟨name, 0, draftedData selector ports plainSize⟩

def unmarkedDrafted : MatchBlock := ⟨name, 1, draftedData selector ports markedSize⟩

/-- What a list of ports tells of a side, or why it cannot be read. -/
def listText (side : Side) : Except LayoutError (Option String) :=
  if 2 < selector then .error (.invalidPortSide selector)
  else if Selects selector side ∧ ports ≠ [] then .ok (some (",".intercalate (ports.map fun port => port.toNat.repr)))
  else .ok none

variable {ports} {size : Nat}

theorem length_front (ports : List UInt16) : (front selector ports).length = 2 + 2 * ports.length := by
  rw [front, List.length_append, Bytes.length_flatMap_of_width Bytes.length_ofWord16]
  rfl

theorem le_of_known (known : size = plainSize ∨ size = markedSize) : 32 ≤ size := by
  rcases known with rfl | rfl <;> decide

variable (few : ports.length ≤ 15)
include few

theorem portListData_eq (room : 32 ≤ size) :
    Draft.portListData selector ports size = .ok (draftedData selector ports size) := by
  have fits : (front selector ports).length ≤ size := by
    rw [length_front]
    omega
  exact if_pos fits

theorem length_draftedData (room : 32 ≤ size) : (draftedData selector ports size).length = size := by
  apply Bytes.length_padTo
  rw [length_front]
  omega

theorem dropLast_draftedData :
    (draftedData selector ports markedSize).dropLast ++ [0] = draftedData selector ports markedSize := by
  have behind : markedSize - (front selector ports).length = 45 - 2 * ports.length + 1 := by
    rw [length_front, markedSize]
    omega
  rw [draftedData, Bytes.padTo, behind, Bytes.zeros_add, ← List.append_assoc]
  exact congrArg (· ++ [0]) List.dropLast_concat

theorem plainDrafted_laidOut : (plainDrafted selector ports).padded.LaidOut (Draft.portListBlock selector ports) := by
  have length : (plainDrafted selector ports).data.length = 32 := length_draftedData selector few (by decide)
  rw [Draft.portListBlock, portListData_eq selector few (by decide), ok_bind]
  apply MatchBlock.laidOut_padded (MatchBlock.named_of_reader (by simp [plainDrafted]))
  omega

theorem unmarkedDrafted_laidOut : (unmarkedDrafted selector ports).padded.LaidOut
    (Draft.markedPortListBlock selector ports [] false) := by
  have length : (unmarkedDrafted selector ports).data.length = 48 := length_draftedData selector few (by decide)
  have made : Draft.markedPortListBlock selector ports [] false =
      Draft.block name 1 (draftedData selector ports markedSize) := by
    rw [Draft.markedPortListBlock, portListData_eq selector few (by decide), ok_bind]
    show Draft.block name 1 ((draftedData selector ports markedSize).dropLast ++ [0]) = _
    -- The byte that is written for the inversion is a zero already.
    rw [dropLast_draftedData selector few]
  rw [made]
  apply MatchBlock.laidOut_padded (MatchBlock.named_of_reader (by simp [unmarkedDrafted]))
  omega

omit few in
/-- What is laid out, as what stands before one of the ports, the port, and what stands behind it. -/
theorem draftedData_cut (size : Nat) {index : Nat} (inside : index < ports.length) : ∃ before after : Bytes,
    before.length = 2 + 2 * index ∧
    draftedData selector ports size = before ++ Bytes.ofNat 2 ports[index].toNat ++ after := by
  refine ⟨[selector, UInt8.ofNat ports.length] ++ (ports.take index).flatMap Bytes.ofWord16,
    (ports.drop (index + 1)).flatMap Bytes.ofWord16 ++ Bytes.zeros (size - (front selector ports).length), ?_, ?_⟩
  · rw [List.length_append, Bytes.length_flatMap_of_width Bytes.length_ofWord16, List.length_take,
      Nat.min_eq_left (Nat.le_of_lt inside)]
    rfl
  · have words : ports.flatMap Bytes.ofWord16 = (ports.take index).flatMap Bytes.ofWord16 ++
        (Bytes.ofNat 2 ports[index].toNat ++ (ports.drop (index + 1)).flatMap Bytes.ofWord16) := by
      conv_lhs => rw [← List.take_append_drop index ports, List.drop_eq_getElem_cons inside]
      rw [List.flatMap_append, List.flatMap_cons]
      rfl
    rw [draftedData, Bytes.padTo, front, words]
    simp only [List.append_assoc]

theorem portAt_draftedData {index : Nat} (room : 32 ≤ size) (inside : index < ports.length) :
    portAt (draftedData selector ports size) index = ports[index] := by
  have length := length_draftedData selector few room
  obtain ⟨before, after, starts, cut⟩ := draftedData_cut selector size inside
  have there := Bytes.word16At_middle before ports[index].toNat after starts
  rw [← cut, Bytes.word16At_getD (by omega), UInt16.ofNat_toNat] at there
  exact Except.ok.inj there

theorem getD_draftedData {index : Nat} (behind : 32 ≤ index) : (draftedData selector ports size).getD index 0 = 0 := by
  have front : (front selector ports).length ≤ index := by
    rw [length_front]
    omega
  rw [draftedData, Bytes.padTo, List.getD_append_right _ _ _ _ front, Bytes.zeros,
    List.getD_eq_getElem?_getD, List.getElem?_getD_replicate_default_eq]

theorem slots_draftedData (room : 32 ≤ size) :
    slots (draftedData selector ports size) ports.length = ports.map fun port => (port, false) := by
  apply List.ext_getElem
  · rw [length_slots, List.length_map]
  · intro index _ inside
    rw [List.length_map] at inside
    have unmarked : markAt (draftedData selector ports size) index = false := by
      rw [markAt, getD_draftedData selector few (Nat.le_add_right 32 index)]
      rfl
    simp only [slots, List.getElem_map, List.getElem_range, portAt_draftedData selector few room inside, unmarked]

theorem header_draftedData (known : size = plainSize ∨ size = markedSize) :
    Header (draftedData selector ports size) selector (UInt8.ofNat ports.length) := by
  have room := le_of_known known
  exact ⟨by rwa [length_draftedData selector few room], rfl, rfl⟩

theorem told_draftedData (known : size = plainSize ∨ size = markedSize) (side : Side) :
    Told (draftedData selector ports size) side (if 2 < selector then .error (.invalidPortSide selector)
      else .ok (if Selects selector side ∧ ports ≠ [] then some (.list (ports.map .single) false) else none)) := by
  have room := le_of_known known
  have header := header_draftedData selector few known
  have count : (UInt8.ofNat ports.length).toNat = ports.length :=
    UInt8.toNat_ofNat_of_lt' (Nat.lt_of_le_of_lt few (by decide))
  have bound : UInt8.ofNat ports.length ≤ 15 := UInt8.le_iff_toNat_le.mpr (count.symm ▸ few)
  by_cases high : 2 < selector
  · rw [if_pos high]
    exact .selector header high
  · have low : selector ≤ 2 := UInt8.not_lt.mp high
    rw [if_neg high]
    by_cases asked : Selects selector side ∧ ports ≠ []
    -- Up to fifteen ports are counted in the byte, which is zero for none of them only.
    · have filled : UInt8.ofNat ports.length ≠ 0 := by
        intro none
        have zero := congrArg UInt8.toNat none
        rw [count] at zero
        exact asked.2 (List.eq_nil_of_length_eq_zero zero)
      have reads := reads_unmarked ports
      rw [← slots_draftedData selector few room, ← count] at reads
      have uninverted : invertedAt (draftedData selector ports size) = false := by
        rw [invertedAt, getD_draftedData selector few (by decide)]
        rfl
      have told := Told.items header low bound asked.1 filled reads
      rw [uninverted] at told
      rwa [if_pos asked]
    · rw [if_neg asked]
      apply Told.silent header low bound
      by_cases selects : Selects selector side
      · right
        rw [not_not.mp fun filled => asked ⟨selects, filled⟩]
        rfl
      · exact .inl selects

theorem padded_data (known : size = plainSize ∨ size = markedSize) : (draftedData selector ports size).padTo
    (Draft.align (draftedData selector ports size).length) = draftedData selector ports size := by
  rw [Bytes.padTo, length_draftedData selector few (le_of_known known)]
  rcases known with rfl | rfl <;> exact List.append_nil _

theorem textOf_drafted (known : size = plainSize ∨ size = markedSize) {block : MatchBlock}
    (data : block.data = draftedData selector ports size) (side : Side) :
    textOf block side = listText selector ports side := by
  have told := told_draftedData selector few known side
  rw [← data] at told
  rw [textOf, value_of_told told, listText, ← PortTest.joined_single]
  split
  · rfl
  · split <;> rfl

end PortList

variable (side : Side)

/-- Blocks in the two forms are laid out from the same values, are found again, and are told alike: ranges of addresses
by the flags of the side, ranges of ports by its inversion flag, and up to fifteen ports by the selector, or the
selector is what both of them fail with. -/
theorem forms_agree :
    (∀ flags source destination,
      (AddressRange.drafted 0 4 flags source destination).padded.LaidOut
        (Draft.addressRangeBlock 0 4 flags source destination) ∧
      (AddressRange.drafted 1 16 flags source destination).padded.LaidOut
        (Draft.addressRangeBlock 1 16 flags source destination) ∧
      AddressRange.textOf (AddressRange.drafted 0 4 flags source destination).padded side =
        .ok (AddressRange.rangeText? flags side (side.choose source destination)) ∧
      AddressRange.textOf (AddressRange.drafted 1 16 flags source destination).padded side =
        .ok (AddressRange.rangeText? flags side (side.choose source destination))) ∧
    (∀ source destination flags,
      (PortRange.tcpDrafted source destination flags).padded.LaidOut (Draft.tcpBlock source destination flags) ∧
      (PortRange.udpDrafted source destination flags).padded.LaidOut (Draft.udpBlock source destination flags) ∧
      PortRange.textOf PortRange.tcp (PortRange.tcpDrafted source destination flags).padded side =
        .ok (PortRange.rangeText? flags side (side.choose source destination)) ∧
      PortRange.textOf PortRange.udp (PortRange.udpDrafted source destination flags).padded side =
        .ok (PortRange.rangeText? flags side (side.choose source destination))) ∧
    ∀ selector (ports : List UInt16), ports.length ≤ 15 →
      (PortList.plainDrafted selector ports).padded.LaidOut (Draft.portListBlock selector ports) ∧
      (PortList.unmarkedDrafted selector ports).padded.LaidOut (Draft.markedPortListBlock selector ports [] false) ∧
      PortList.textOf (PortList.plainDrafted selector ports).padded side = PortList.listText selector ports side ∧
      PortList.textOf (PortList.unmarkedDrafted selector ports).padded side =
        PortList.listText selector ports side := by
  refine ⟨fun flags source destination => ?_, fun source destination flags => ?_, fun selector ports few => ?_⟩
  · have narrow : (0 : UInt8) = 0 ∧ 4 = 4 ∨ (0 : UInt8) = 1 ∧ 4 = 16 := .inl ⟨rfl, rfl⟩
    have wide : (1 : UInt8) = 0 ∧ 16 = 4 ∨ (1 : UInt8) = 1 ∧ 16 = 16 := .inr ⟨rfl, rfl⟩
    exact ⟨AddressRange.drafted_laidOut narrow flags source destination,
      AddressRange.drafted_laidOut wide flags source destination,
      AddressRange.textOf_drafted narrow flags source destination side,
      AddressRange.textOf_drafted wide flags source destination side⟩
  · exact ⟨PortRange.tcpDrafted_laidOut source destination flags, PortRange.udpDrafted_laidOut source destination flags,
      PortRange.textOf_drafted flags (PortRange.tcpDrafted_holds source destination flags side),
      PortRange.textOf_drafted flags (PortRange.udpDrafted_holds source destination flags side)⟩
  · exact ⟨PortList.plainDrafted_laidOut selector few, PortList.unmarkedDrafted_laidOut selector few,
      PortList.textOf_drafted selector few (.inl rfl) (PortList.padded_data selector few (.inl rfl)) side,
      PortList.textOf_drafted selector few (.inr rfl) (PortList.padded_data selector few (.inr rfl)) side⟩

/-- A list of two ports, and one range of sources whose flags invert it, or would invert a range of destinations. -/
theorem forms_agree_pair :
    [22, 80].length ≤ 15 ∧
    ((PortList.plainDrafted 2 [22, 80]).padded.LaidOut (Draft.portListBlock 2 [22, 80]) ∧
      (PortList.unmarkedDrafted 2 [22, 80]).padded.LaidOut (Draft.markedPortListBlock 2 [22, 80] [] false) ∧
      PortList.textOf (PortList.plainDrafted 2 [22, 80]).padded .source = .ok (some "22,80") ∧
      PortList.textOf (PortList.unmarkedDrafted 2 [22, 80]).padded .source = .ok (some "22,80")) ∧
    let range : Draft.AddressPair := (⟨1, 2, 3, 4⟩, ⟨5, 6, 7, 8⟩)
    AddressRange.textOf (AddressRange.drafted 0 4 0x11 range range).padded .source = .ok (some "!(1.2.3.4-5.6.7.8)") ∧
    AddressRange.textOf (AddressRange.drafted 1 16 0x21 range range).padded .source = .ok (some "1.2.3.4-5.6.7.8") := by
  obtain ⟨ranges, -, lists⟩ := forms_agree .source
  exact ⟨by decide, lists 2 [22, 80] (by decide), (ranges 0x11 _ _).2.2.1, (ranges 0x21 _ _).2.2.2⟩

end Match

end FilterWatch
