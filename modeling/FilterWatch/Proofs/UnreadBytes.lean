import FilterWatch.Proofs.RecordRuns

/-! The bytes of a record's header that nobody reads: those on interfaces, on caching and on where a
packet comes from, and the counters. With zeros in their place, a record tells all that it told
before. Two tables that differ in nothing else have the same records, up to these bytes. -/

namespace FilterWatch
open Proofs.Outcomes

namespace Record

/-- No one reads the byte at this position of a record. -/
def Unread (position : Nat) : Prop :=
  (16 ≤ position ∧ position < 80) ∨ (84 ≤ position ∧ position < 88) ∨ (92 ≤ position ∧ position < 112)

instance (position : Nat) : Decidable (Unread position) := inferInstanceAs (Decidable (_ ∨ _ ∨ _))

theorem not_unread_of_le {position : Nat} (behind : headerSize ≤ position) : ¬ Unread position := by
  have header : headerSize = 112 := rfl
  unfold Unread
  omega

end Record

namespace Bytes

/-- The bytes of a record, with zeros in place of those that no one reads. -/
def clear (bytes : Bytes) : Bytes := bytes.mapIdx fun position byte => if Record.Unread position then 0 else byte

theorem length_clear (bytes : Bytes) : bytes.clear.length = bytes.length := List.length_mapIdx

theorem getElem?_clear {bytes : Bytes} {position : Nat} (read : ¬ Record.Unread position) :
    bytes.clear[position]? = bytes[position]? := by
  simp only [clear, List.getElem?_mapIdx, if_neg read, Option.map_id']

theorem clear_eq {first second : Bytes} (same : first.length = second.length)
    (agree : ∀ position, ¬ Record.Unread position → first[position]? = second[position]?) :
    first.clear = second.clear := by
  refine List.ext_getElem? fun position => ?_
  rw [clear, clear, List.getElem?_mapIdx, List.getElem?_mapIdx]
  by_cases unread : Record.Unread position
  · simp only [if_pos unread]
    rcases Nat.lt_or_ge position first.length with inside | outside
    · rw [List.getElem?_eq_getElem inside, List.getElem?_eq_getElem (same ▸ inside)]
      rfl
    · rw [List.getElem?_eq_none outside, List.getElem?_eq_none (same ▸ outside)]
  · rw [agree position unread]

theorem slice_eq_ite (region : Bytes) (offset length : Nat) : region.slice offset length =
    if offset + length ≤ region.length then .ok ((region.drop offset).take length)
    else .error (.outOfBounds offset length region.length) := by
  by_cases fits : offset + length ≤ region.length <;> simp [slice, slice?, fits]

theorem getElem?_part {region : Bytes} {offset length index : Nat} :
    ((region.drop offset).take length)[index]? = if index < length then region[offset + index]? else none := by
  rw [List.getElem?_take, List.getElem?_drop]

theorem slice_congr {first second : Bytes} (same : first.length = second.length) {offset length : Nat}
    (agree : ∀ index < length, first[offset + index]? = second[offset + index]?) :
    first.slice offset length = second.slice offset length := by
  have part : (first.drop offset).take length = (second.drop offset).take length := by
    refine List.ext_getElem? fun index => ?_
    rw [getElem?_part, getElem?_part]
    split
    next inside => exact agree index inside
    · rfl
  rw [slice_eq_ite, slice_eq_ite, same, part]

theorem map_clear_slice {first second : Bytes} (same : first.length = second.length) {offset length : Nat}
    (agree : ∀ index < length, ¬ Record.Unread index → first[offset + index]? = second[offset + index]?) :
    (first.slice offset length).map clear = (second.slice offset length).map clear := by
  have part : clear ((first.drop offset).take length) = clear ((second.drop offset).take length) := by
    refine clear_eq (by simp [same]) fun index read => ?_
    rw [getElem?_part, getElem?_part]
    split
    next inside => exact agree index inside read
    · rfl
  rw [slice_eq_ite, slice_eq_ite, same]
  split
  · exact congrArg Except.ok part
  · rfl

theorem slice_clear {bytes : Bytes} {offset length : Nat} (read : ∀ index < length, ¬ Record.Unread (offset + index)) :
    bytes.clear.slice offset length = bytes.slice offset length :=
  slice_congr bytes.length_clear fun index inside => getElem?_clear (read index inside)

theorem byteAt_clear {bytes : Bytes} {offset : Nat} (read : ∀ index < 1, ¬ Record.Unread (offset + index)) :
    bytes.clear.byteAt offset = bytes.byteAt offset := congrArg (Except.map _) (slice_clear read)

theorem word16At_clear {bytes : Bytes} {offset : Nat} (read : ∀ index < 2, ¬ Record.Unread (offset + index)) :
    bytes.clear.word16At offset = bytes.word16At offset := congrArg (Except.map _) (slice_clear read)

theorem addressAt_clear {bytes : Bytes} {offset : Nat} (read : ∀ index < 4, ¬ Record.Unread (offset + index)) :
    bytes.clear.addressAt offset = bytes.addressAt offset := congrArg (Except.map _) (slice_clear read)

end Bytes

namespace Record

def cleared (record : Record) : Record where
  offset := record.offset
  bytes := record.bytes.clear
  targetOffset := record.targetOffset
  header_le := record.header_le
  target_le := Nat.le_trans record.target_le (Nat.le_of_eq record.bytes.length_clear.symm)

theorem cleared_congr {first second : Record} (offset : first.offset = second.offset)
    (bytes : first.bytes.clear = second.bytes.clear) (target : first.targetOffset = second.targetOffset) :
    first.cleared = second.cleared := by
  simp only [cleared, offset, bytes, target]

theorem slice_cleared {record : Record} {position : Nat} (behind : headerSize ≤ position) (length : Nat) :
    record.cleared.bytes.slice position length = record.bytes.slice position length :=
  Bytes.slice_clear fun index _ => not_unread_of_le (Nat.le_trans behind (Nat.le_add_right position index))

theorem word16At_cleared {record : Record} {position : Nat} (behind : headerSize ≤ position) :
    record.cleared.bytes.word16At position = record.bytes.word16At position :=
  congrArg (Except.map _) (slice_cleared behind 2)

variable (record : Record)

theorem cleared_targetOffset : record.cleared.targetOffset = record.targetOffset := rfl

theorem cleared_size : record.cleared.size = record.size := record.bytes.length_clear

theorem cleared_next : record.cleared.next = record.next := congrArg (record.offset + ·) record.cleared_size

theorem cleared_address (side : Side) : record.cleared.address side = record.address side := by
  cases side <;> exact Bytes.addressAt_clear (by decide)

theorem cleared_mask (side : Side) : record.cleared.mask side = record.mask side := by
  cases side <;> exact Bytes.addressAt_clear (by decide)

theorem cleared_protocol : record.cleared.protocol = record.protocol := Bytes.word16At_clear (by decide)

theorem cleared_isGoto : record.cleared.isGoto = record.isGoto :=
  congrArg (Except.map _) (Bytes.byteAt_clear (by decide))

theorem cleared_addressInverted (side : Side) : record.cleared.addressInverted side = record.addressInverted side :=
  congrArg (Except.map _) (Bytes.byteAt_clear (by decide))

theorem cleared_protocolInverted : record.cleared.protocolInverted = record.protocolInverted :=
  congrArg (Except.map _) (Bytes.byteAt_clear (by decide))

theorem cleared_matchAt {position : Nat} (behind : headerSize ≤ position) :
    record.cleared.matchAt position = record.matchAt position := by
  simp only [matchAt, word16At_cleared behind, slice_cleared behind]
  rfl

theorem cleared_matchesFrom {position : Nat} (behind : headerSize ≤ position) :
    record.cleared.matchesFrom position = record.matchesFrom position := by
  fun_induction matchesFrom record position with
  | case1 position inside fault failed =>
    have same : record.cleared.matchAt position = .error fault := (record.cleared_matchAt behind).trans failed
    rw [matchesFrom, cleared_targetOffset, if_pos inside, same]
  | case2 position inside block found rest ih =>
    have same : record.cleared.matchAt position = .ok block := (record.cleared_matchAt behind).trans found
    have later := ih (Nat.le_trans behind (Nat.le_add_right position block.size))
    rw [matchesFrom, cleared_targetOffset, if_pos inside, same]
    simp only [later]
    rfl
  | case3 position outside => rw [matchesFrom, cleared_targetOffset, if_neg outside]

theorem cleared_matchWalk : record.cleared.matchWalk = record.matchWalk :=
  record.cleared_matchesFrom (Nat.le_refl headerSize)

theorem cleared_target : record.cleared.target = record.target := by
  have behind := record.header_le
  simp only [target, cleared_size, cleared_targetOffset, word16At_cleared behind, slice_cleared behind]
  rfl

theorem cleared_errorName : record.cleared.errorName = record.errorName := by
  rw [errorName, cleared_target, errorName]

end Record

/-- Walking from record to record, one gets from the first offset to the second. -/
inductive Reaches (entries : Bytes) : Nat → Nat → Prop
  | here (offset : Nat) : Reaches entries offset offset
  | next {start offset : Nat} {record : Record} (parsed : Record.parse entries start = .ok record)
      (rest : Reaches entries record.next offset) : Reaches entries start offset

/-- Tables of one length that differ, from an offset on, only where no one reads a record that is
reached from there. -/
structure DifferUnread (first second : Bytes) (start : Nat) : Prop where
  length : first.length = second.length
  unread : ∀ position, start ≤ position → first[position]? ≠ second[position]? →
    ∃ offset, Reaches first start offset ∧ offset ≤ position ∧ Record.Unread (position - offset)

theorem Record.next_of_parse {entries : Bytes} {start : Nat} {record : Record}
    (parsed : Record.parse entries start = .ok record) : record.next = start + record.size :=
  congrArg (· + record.size) (Record.parse_eq_ok.mp parsed).1

theorem Record.size_of_front {entries header : Bytes} {start : Nat} {next : UInt16} {record : Record}
    (parsed : Record.parse entries start = .ok record) (front : entries.slice start Record.headerSize = .ok header)
    (told : header.word16At 90 = .ok next) : record.size = next.toNat := by
  obtain ⟨_, whole, announced⟩ := Record.parse_eq_ok.mp parsed
  have short := announced.short
  have same := announced.size
  rw [Bytes.word16At_slice whole (Nat.le_trans (by decide) record.headerSize_le),
    ← Bytes.word16At_slice front (by decide), told] at same
  cases same
  rw [UInt16.toNat_ofNat', Nat.mod_eq_of_lt short]

theorem Reaches.le {entries : Bytes} {start offset : Nat} (reached : Reaches entries start offset) : start ≤ offset := by
  induction reached with
  | here offset => exact Nat.le_refl offset
  | next parsed rest ih =>
    have next := Record.next_of_parse parsed
    omega

namespace DifferUnread

variable {first second : Bytes} {start : Nat}

theorem agree (differ : DifferUnread first second start) {index : Nat} (read : ¬ Record.Unread index)
    (inside : ∀ record, Record.parse first start = .ok record → index < record.size) :
    first[start + index]? = second[start + index]? := by
  by_contra other
  obtain ⟨offset, reached, after, unread⟩ := differ.unread _ (Nat.le_add_right start index) other
  cases reached with
  | here =>
    rw [Nat.add_sub_cancel_left] at unread
    exact read unread
  | next parsed rest =>
    -- Records further on begin behind the end of this one.
    have behind := rest.le
    have next := Record.next_of_parse parsed
    have within := inside _ parsed
    omega

theorem next (differ : DifferUnread first second start) {record : Record}
    (parsed : Record.parse first start = .ok record) : DifferUnread first second record.next := by
  refine ⟨differ.length, fun position behind other => ?_⟩
  have next := Record.next_of_parse parsed
  obtain ⟨offset, reached, after, unread⟩ := differ.unread position (by omega) other
  cases reached with
  | here =>
    have long := record.headerSize_le
    exact absurd unread (Record.not_unread_of_le (by omega))
  | next same rest =>
    cases parsed.symm.trans same
    exact ⟨offset, rest, after, unread⟩

theorem parse (differ : DifferUnread first second start) :
    (Record.parse first start).map Record.cleared = (Record.parse second start).map Record.cleared := by
  have header : (first.slice start Record.headerSize).map Bytes.clear =
      (second.slice start Record.headerSize).map Bytes.clear :=
    Bytes.map_clear_slice differ.length fun index inside read =>
      differ.agree read fun record _ => Nat.lt_of_lt_of_le inside record.headerSize_le
  obtain ⟨error, front, otherFront⟩ | ⟨bytes, others, front, otherFront, same⟩ := map_eq_map header
  · simp only [Record.parse, front, otherFront]
    rfl
  have targets : bytes.word16At 88 = others.word16At 88 := by
    rw [← Bytes.word16At_clear (by decide), same, Bytes.word16At_clear (by decide)]
  have sizes : bytes.word16At 90 = others.word16At 90 := by
    rw [← Bytes.word16At_clear (by decide), same, Bytes.word16At_clear (by decide)]
  -- Both headers announce one size, and up to there the tables agree on what is read.
  have long : others.length = Record.headerSize := Bytes.length_of_slice otherFront
  obtain ⟨target, atTarget⟩ : ∃ target, others.word16At 88 = .ok target :=
    Bytes.word16At_within (by rw [long]; decide)
  obtain ⟨next, atNext⟩ : ∃ next, others.word16At 90 = .ok next := Bytes.word16At_within (by rw [long]; decide)
  have whole : (first.slice start next.toNat).map Bytes.clear = (second.slice start next.toNat).map Bytes.clear :=
    Bytes.map_clear_slice differ.length fun index inside read => differ.agree read fun record parsed =>
      Nat.lt_of_lt_of_eq inside (Record.size_of_front parsed front (sizes.trans atNext)).symm
  simp only [Record.parse, front, otherFront, targets, sizes, atTarget, atNext, differ.length, ok_bind]
  split
  · rfl
  obtain ⟨error, cut, otherCut⟩ | ⟨own, other, cut, otherCut, alike⟩ := map_eq_map whole
  · simp only [cut, otherCut]
  have length : own.length = other.length := by rw [← own.length_clear, alike, other.length_clear]
  simp only [cut, otherCut, ok_bind, length]
  split
  · exact congrArg Except.ok (Record.cleared_congr rfl alike rfl)
  · rfl

/-- The records of the tables from the offset on are the same but for what no one reads. -/
theorem recordsFrom (differ : DifferUnread first second start) :
    (Table.recordsFrom first start).map (·.map Record.cleared) =
      (Table.recordsFrom second start).map (·.map Record.cleared) := by
  fun_induction Table.recordsFrom first start with
  | case1 start inside error failed =>
    have same := differ.parse
    rw [failed] at same
    obtain ⟨_, left, right⟩ | ⟨_, _, left, _⟩ := map_eq_map same
    · cases left
      rw [Table.recordsFrom, if_pos (differ.length ▸ inside), right]
    · cases left
  | case2 start inside record parsed ih =>
    have same := differ.parse
    rw [parsed] at same
    obtain ⟨_, left, _⟩ | ⟨_, other, left, right, alike⟩ := map_eq_map same
    · cases left
    cases left
    have size : other.size = record.size := by rw [← other.cleared_size, ← alike, record.cleared_size]
    have rest := ih (Record.next_of_parse parsed ▸ differ.next parsed)
    have walk : Table.recordsFrom second start =
        (Table.recordsFrom second (start + record.size)).map (other :: ·) := by
      rw [Table.recordsFrom, if_pos (differ.length ▸ inside), right]
      simp only [size]
    rw [walk]
    obtain ⟨error, failed, otherFailed⟩ | ⟨records, others, read, otherRead, map⟩ := map_eq_map rest
    · rw [failed, otherFailed]
      rfl
    · rw [read, otherRead]
      show Except.ok (record.cleared :: records.map Record.cleared) = .ok (other.cleared :: others.map Record.cleared)
      rw [alike, map]
  | case3 start outside => rw [Table.recordsFrom, if_neg (differ.length ▸ outside)]

end DifferUnread

end FilterWatch
