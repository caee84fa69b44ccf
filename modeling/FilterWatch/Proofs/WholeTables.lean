import FilterWatch.Proofs.DraftAnatomy

/-! A table is accepted with all of its bytes or not at all. Bytes that end early or go on behind the last record are
refused with the same info: a cut within a record leaves no record there, and every other change leaves another
number of records than the info announces. -/

namespace FilterWatch
open Proofs.Outcomes

theorem Bytes.slice_of_prefix {region longer bytes : Bytes} {offset length : Nat} (front : region <+: longer)
    (read : region.slice offset length = .ok bytes) : longer.slice offset length = .ok bytes := by
  obtain ⟨fits, same⟩ := slice_eq_ok.mp read
  obtain ⟨rest, rfl⟩ := front
  refine slice_eq_ok.mpr ⟨by rw [List.length_append]; omega, ?_⟩
  rw [List.drop_append_of_le_length (by omega), List.take_append_of_le_length (by rw [List.length_drop]; omega), same]

namespace Record

variable {record : Record}

/-- A record is read the same however many bytes are behind it. -/
theorem parse_of_prefix {table longer : Bytes} {offset : Nat} (front : table <+: longer)
    (parsed : parse table offset = .ok record) : parse longer offset = .ok record := by
  obtain ⟨rfl, whole, announced⟩ := parse_eq_ok.mp parsed
  exact parse_eq_ok.mpr ⟨rfl, Bytes.slice_of_prefix front whole, announced⟩

/-- What ends short of the bytes of records ends between two of them or within one. -/
theorem exists_cut {records : List Record} {kept : Bytes} (front : kept <+: records.flatMap Record.bytes)
    (short : kept ≠ records.flatMap Record.bytes) : ∃ before record after part, records = before ++ record :: after ∧
      kept = before.flatMap Record.bytes ++ part ∧ part <+: record.bytes ∧ part.length < record.size := by
  induction records generalizing kept with
  | nil => exact absurd (List.prefix_nil.mp front) short
  | cons record rest ih =>
    rw [List.flatMap_cons] at front short
    by_cases whole : record.bytes <+: kept
    · obtain ⟨later, rfl⟩ := whole
      have front := (List.prefix_append_right_inj record.bytes).mp front
      obtain ⟨before, last, after, part, rfl, rfl, within, cut⟩ := ih front fun same => short (same ▸ rfl)
      exact ⟨record :: before, last, after, part, rfl, by rw [List.flatMap_cons, List.append_assoc], within, cut⟩
    · have within := (List.prefix_or_prefix_of_prefix front (List.prefix_append record.bytes _)).resolve_right whole
      have cut : kept.length ≠ record.size := fun same => whole (within.eq_of_length same ▸ List.prefix_rfl)
      exact ⟨[], record, rest, kept, rfl, rfl, within, Nat.lt_of_le_of_ne within.length_le cut⟩

theorem parse_of_headless {table : Bytes} (short : table.length < record.offset + headerSize) :
    parse table record.offset = .error (.outOfBounds record.offset headerSize table.length) := by
  have missing : table.slice record.offset headerSize =
      .error (.outOfBounds record.offset headerSize table.length) := by
    rw [Bytes.slice, Bytes.slice?, if_neg (Nat.not_le.mpr short)]
  rw [parse, missing]
  rfl

theorem parse_of_headed {table : Bytes} (announced : record.Announced)
    (part : table.drop record.offset <+: record.bytes) (headed : record.offset + headerSize ≤ table.length)
    (short : table.length < record.next) :
    parse table record.offset = .error (.invalidNextOffset record.offset record.size) := by
  let header := (table.drop record.offset).take headerSize
  have front : table.slice record.offset headerSize = .ok header := Bytes.slice_eq_ok.mpr ⟨headed, rfl⟩
  have own : record.bytes.slice 0 headerSize = .ok header := by
    refine Bytes.slice_of_prefix part (Bytes.slice_eq_ok.mpr ⟨?_, rfl⟩)
    rw [List.length_drop]
    omega
  have target := (Bytes.word16At_slice own (by decide)).mpr ((Nat.zero_add 88).symm ▸ announced.target)
  have size := (Bytes.word16At_slice own (by decide)).mpr ((Nat.zero_add 90).symm ▸ announced.size)
  have told : (UInt16.ofNat record.size).toNat = record.size := by
    rw [UInt16.toNat_ofNat', Nat.mod_eq_of_lt announced.short]
  rw [parse, front, ok_bind, target, ok_bind, size, ok_bind]
  dsimp only
  rw [told, if_pos (.inr short)]
  rfl

end Record

namespace Table
open Record

theorem recordsFrom_of_parsed {entries : Bytes} {offset : Nat} {records : List Record}
    (placed : Consecutive offset records) (parsed : ∀ record ∈ records, parse entries record.offset = .ok record) :
    recordsFrom entries offset = (recordsFrom entries (offset + extent records)).map (records ++ ·) := by
  induction records generalizing offset with
  | nil =>
    rw [extent, List.flatMap_nil, List.length_nil, Nat.add_zero]
    cases recordsFrom entries offset <;> rfl
  | cons record rest ih =>
    obtain ⟨rfl, behind⟩ := placed
    have first := parsed record (by simp)
    have others := ih behind fun other member => parsed other (by simp [member])
    have inside : record.offset < entries.length := by
      have fits := (Bytes.slice_eq_ok.mp (parse_eq_ok.mp first).2.1).1
      have positive := record.size_pos
      omega
    rw [recordsFrom, if_pos inside, first, extent_cons, ← Nat.add_assoc]
    dsimp only
    rw [← next, others]
    cases recordsFrom entries (record.next + extent rest) <;> rfl

theorem recordsFrom_of_failed {entries : Bytes} {offset : Nat} {records : List Record}
    (placed : Consecutive offset records) (parsed : ∀ record ∈ records, parse entries record.offset = .ok record)
    (more : offset + extent records < entries.length) {error : LayoutError}
    (failed : parse entries (offset + extent records) = .error error) : recordsFrom entries offset = .error error := by
  rw [recordsFrom_of_parsed placed parsed, recordsFrom, if_pos more, failed]
  rfl

theorem ofSnapshot_of_unread {info : TableInfo} {entries : Bytes} {error : LayoutError}
    (failed : recordsFrom entries 0 = .error error) : ofSnapshot info entries = .error error := by
  rw [ofSnapshot, failed]
  rfl

theorem ofSnapshot_of_count {info : TableInfo} {entries : Bytes} {records : List Record}
    (read : recordsFrom entries 0 = .ok records) (other : records.length ≠ info.entryCount.toNat) :
    ofSnapshot info entries = .error (.entryCountMismatch info.entryCount.toNat records.length) := by
  rw [ofSnapshot, read, ok_bind, ofRecords, if_pos other]
  rfl

/-- Why bytes are refused that are the beginning of a table's: the records that are left are too few, or the next one
is without its header or without an end. -/
inductive CutShort (info : TableInfo) (entries kept : Bytes) : LayoutError → Prop
  | between {before after : List Record} (records : recordsFrom entries 0 = .ok (before ++ after))
      (missing : after ≠ []) (whole : kept = before.flatMap Record.bytes) :
      CutShort info entries kept (.entryCountMismatch info.entryCount.toNat before.length)
  | headless {before after : List Record} {record : Record}
      (records : recordsFrom entries 0 = .ok (before ++ record :: after)) (begun : record.offset < kept.length)
      (short : kept.length < record.offset + headerSize) :
      CutShort info entries kept (.outOfBounds record.offset headerSize kept.length)
  | headed {before after : List Record} {record : Record}
      (records : recordsFrom entries 0 = .ok (before ++ record :: after))
      (headed : record.offset + headerSize ≤ kept.length) (short : kept.length < record.next) :
      CutShort info entries kept (.invalidNextOffset record.offset record.size)

/-- Why bytes are refused that go on behind a table's: these are no records, or one or more too many. -/
inductive RunsOn (info : TableInfo) (entries behind : Bytes) : LayoutError → Prop
  | unreadable {error : LayoutError} (failed : recordsFrom (entries ++ behind) entries.length = .error error) :
      RunsOn info entries behind error
  | more {records : List Record} (read : recordsFrom (entries ++ behind) entries.length = .ok records)
      (filled : records ≠ []) : RunsOn info entries behind
        (.entryCountMismatch info.entryCount.toNat (info.entryCount.toNat + records.length))

variable {info : TableInfo} {entries : Bytes} {records : List Record}

theorem refused_of_cut (read : recordsFrom entries 0 = .ok records) (count : records.length = info.entryCount.toNat)
    {kept : Bytes} (front : kept <+: entries) (cut : kept ≠ entries) :
    ∃ error, CutShort info entries kept error ∧ ofSnapshot info kept = .error error := by
  obtain ⟨placed, same, announced⟩ := recordsFrom_eq_ok.mp read
  rw [same] at front cut
  obtain ⟨before, record, after, part, rfl, rfl, within, short⟩ := exists_cut front cut
  obtain ⟨earlier, starts, -⟩ := Consecutive.append.mp placed
  have whole : recordsFrom (before.flatMap Record.bytes) 0 = .ok before :=
    recordsFrom_eq_ok.mpr ⟨earlier, rfl, fun other member => announced other (by simp [member])⟩
  -- The cut is between two records, or within one: in its header, or behind the header that announces the rest.
  by_cases none : part = []
  · subst none
    rw [List.append_nil]
    refine ⟨_, .between read (List.cons_ne_nil record after) rfl, ofSnapshot_of_count whole ?_⟩
    rw [← count, List.length_append, List.length_cons]
    omega
  have begun := List.length_pos_iff.mpr none
  have length : (before.flatMap Record.bytes ++ part).length = 0 + extent before + part.length := by
    rw [List.length_append, Nat.zero_add, extent]
  have parsed : ∀ other ∈ before, parse (before.flatMap Record.bytes ++ part) other.offset = .ok other :=
    fun other member => parse_of_prefix (List.prefix_append _ part) ((recordsFrom_iff_parsed.mp whole).2.2 other member)
  have fails {error : LayoutError} (failed : parse (before.flatMap Record.bytes ++ part) record.offset = .error error) :
      ofSnapshot info (before.flatMap Record.bytes ++ part) = .error error := by
    rw [starts] at failed
    exact ofSnapshot_of_unread (recordsFrom_of_failed earlier parsed (by omega) failed)
  by_cases headed : record.offset + headerSize ≤ (before.flatMap Record.bytes ++ part).length
  · have ends : (before.flatMap Record.bytes ++ part).length < record.next := by
      rw [next]
      omega
    have left : (before.flatMap Record.bytes ++ part).drop record.offset <+: record.bytes := by
      rw [starts, Nat.zero_add, extent, List.drop_left]
      exact within
    exact ⟨_, .headed read headed ends, fails (parse_of_headed (announced record (by simp)) left headed ends)⟩
  · have ends := Nat.lt_of_not_le headed
    exact ⟨_, .headless read (by omega) ends, fails (parse_of_headless ends)⟩

theorem refused_of_more (read : recordsFrom entries 0 = .ok records) (count : records.length = info.entryCount.toNat)
    {behind : Bytes} (added : behind ≠ []) :
    ∃ error, RunsOn info entries behind error ∧ ofSnapshot info (entries ++ behind) = .error error := by
  obtain ⟨placed, same, own⟩ := recordsFrom_iff_parsed.mp read
  have parsed : ∀ record ∈ records, parse (entries ++ behind) record.offset = .ok record :=
    fun record member => parse_of_prefix (List.prefix_append entries behind) (own record member)
  have going := recordsFrom_of_parsed placed parsed
  rw [Nat.zero_add, extent, ← same] at going
  cases others : recordsFrom (entries ++ behind) entries.length with
  | error error =>
    rw [others] at going
    exact ⟨error, .unreadable others, ofSnapshot_of_unread going⟩
  | ok later =>
    rw [others] at going
    have filled : later ≠ [] := by
      rintro rfl
      have begun := List.length_pos_iff.mpr added
      rw [recordsFrom, if_pos (by rw [List.length_append]; omega)] at others
      split at others
      · cases others
      · obtain ⟨_, _, none⟩ := map_eq_ok.mp others
        cases none
    have more : (records ++ later).length = info.entryCount.toNat + later.length := by rw [List.length_append, count]
    have positive := List.length_pos_iff.mpr filled
    exact ⟨_, .more others filled, more ▸ ofSnapshot_of_count going (by omega)⟩

/-- Of the bytes of an accepted table none can be left out at the end, and none can follow. -/
theorem accepted_whole (accepted : ∃ table, ofSnapshot info entries = .ok table) :
    (∀ kept, kept <+: entries → kept ≠ entries →
      ∃ error, CutShort info entries kept error ∧ ofSnapshot info kept = .error error) ∧
    ∀ behind, behind ≠ [] →
      ∃ error, RunsOn info entries behind error ∧ ofSnapshot info (entries ++ behind) = .error error := by
  obtain ⟨table, accepted⟩ := accepted
  obtain ⟨body, closing, builtin, passages, anatomy, -⟩ := ofSnapshot_eq_ok.mp accepted
  have read := recordsFrom_eq_ok.mpr ⟨anatomy.consecutive, anatomy.bytes, anatomy.announced⟩
  have count : (body ++ [closing]).length = info.entryCount.toNat := by simpa using anatomy.count
  constructor
  · intro kept front cut
    exact refused_of_cut read count front cut
  · intro behind added
    exact refused_of_more read count added

end Table

namespace TableDraft

def lone : TableDraft where
  name := "filter"
  builtins := [{ hook := .input, policy := Verdict.drop, rules := [] }]
  chains := []

theorem lone_valid : lone.Valid := by decide

/-- A cut between the two records, cuts in the header of the second and behind it, and a byte too many. -/
theorem accepted_whole_lone :
    (∃ table, Table.ofSnapshot lone.builtInfo lone.builtEntries = .ok table) ∧
    (∀ length ∈ [152, 200, 300], ∃ error,
      Table.CutShort lone.builtInfo lone.builtEntries (lone.builtEntries.take length) error ∧
        Table.ofSnapshot lone.builtInfo (lone.builtEntries.take length) = .error error) ∧
    ∃ error, Table.RunsOn lone.builtInfo lone.builtEntries [0] error ∧
      Table.ofSnapshot lone.builtInfo (lone.builtEntries ++ [0]) = .error error := by
  have accepted : ∃ table, Table.ofSnapshot lone.builtInfo lone.builtEntries = .ok table :=
    ⟨lone.built, lone_valid.accepted.2⟩
  obtain ⟨cut, more⟩ := Table.accepted_whole accepted
  refine ⟨accepted, fun length member => cut _ (List.take_prefix length _) ?_, more [0] (by decide)⟩
  have short : ∀ length ∈ [152, 200, 300], lone.builtEntries.take length ≠ lone.builtEntries := by decide +kernel
  exact short length member

end TableDraft

end FilterWatch
