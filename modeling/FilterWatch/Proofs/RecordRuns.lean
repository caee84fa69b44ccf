import FilterWatch.Table
import FilterWatch.Proofs.ByteReading
import Mathlib.Data.List.Nodup

/-! A table's bytes are its records, one after the other. Reading a record takes nothing from its
surroundings, so the bytes from an offset on determine the records and the records determine the
bytes. -/

namespace FilterWatch.Record
open Proofs.Outcomes

/-- The header tells the record's own size and where its target stands. -/
structure Announced (record : Record) : Prop where
  target : record.bytes.word16At 88 = .ok (UInt16.ofNat record.targetOffset)
  size : record.bytes.word16At 90 = .ok (UInt16.ofNat record.size)
  short : record.size < 65536

theorem headerSize_le (record : Record) : headerSize ≤ record.size :=
  Nat.le_trans record.header_le record.target_le

private theorem parse_sound {table : Bytes} {offset : Nat} {record : Record}
    (parsed : parse table offset = .ok record) :
    record.offset = offset ∧ table.slice offset record.size = .ok record.bytes ∧ record.Announced := by
  unfold parse at parsed
  simp only [bind_eq_ok] at parsed
  obtain ⟨header, front, target, atTarget, next, atNext, rest⟩ := parsed
  split at rest
  · cases rest
  next fits =>
    rw [not_or, Nat.not_lt] at fits
    obtain ⟨bytes, whole, rest⟩ := bind_eq_ok.mp rest
    split at rest
    next within =>
      cases rest
      have size := Bytes.length_of_slice whole
      refine ⟨rfl, by simpa only [Record.size, size] using whole, ?_, ?_, ?_⟩
      · rw [Bytes.word16At_slice front (by decide), ← Bytes.word16At_slice whole (Nat.le_trans (by decide) fits.1)] at atTarget
        simpa only [UInt16.ofNat_toNat] using atTarget
      · rw [Bytes.word16At_slice front (by decide), ← Bytes.word16At_slice whole (Nat.le_trans (by decide) fits.1)] at atNext
        simpa only [Record.size, size, UInt16.ofNat_toNat] using atNext
      · simpa only [Record.size, size] using next.toNat_lt
    · cases rest

private theorem parse_complete {table : Bytes} {record : Record} (announced : record.Announced)
    (whole : table.slice record.offset record.size = .ok record.bytes) :
    parse table record.offset = .ok record := by
  have long := record.headerSize_le
  have fits := (Bytes.slice_eq_ok.mp whole).1
  have front : table.slice record.offset headerSize = .ok (record.bytes.take headerSize) := by
    rw [← Nat.add_zero record.offset, ← Bytes.slice_slice whole (by omega)]
    exact Bytes.slice_eq_ok.mpr ⟨by rwa [Nat.zero_add], rfl⟩
  have short := announced.short
  have target : (UInt16.ofNat record.targetOffset).toNat = record.targetOffset := by
    have inside : record.targetOffset ≤ record.size := record.target_le
    simp only [UInt16.toNat_ofNat']
    omega
  have size : (UInt16.ofNat record.size).toNat = record.size := by
    simp only [UInt16.toNat_ofNat']
    omega
  have atTarget := announced.target
  have atSize := announced.size
  rw [Bytes.word16At_slice whole (Nat.le_trans (by decide) long),
    ← Bytes.word16At_slice front (by decide)] at atTarget atSize
  unfold parse
  simp only [front, atTarget, atSize, target, size, bind, Except.bind]
  rw [if_neg (by omega)]
  simp only [whole]
  rw [dif_pos ⟨record.header_le, record.target_le⟩]
  rfl

/-- A record stands at an offset exactly if its bytes do and its header tells its extent. -/
theorem parse_eq_ok {table : Bytes} {offset : Nat} {record : Record} :
    parse table offset = .ok record ↔
      record.offset = offset ∧ table.slice offset record.size = .ok record.bytes ∧ record.Announced := by
  refine ⟨parse_sound, ?_⟩
  rintro ⟨rfl, whole, announced⟩
  exact parse_complete announced whole

/-- The bytes that records take together. -/
def extent (records : List Record) : Nat := (records.flatMap Record.bytes).length

theorem extent_cons (record : Record) (rest : List Record) :
    extent (record :: rest) = record.size + extent rest := by
  simp only [extent, List.flatMap_cons, List.length_append, size]

theorem extent_append (first second : List Record) :
    extent (first ++ second) = extent first + extent second := by
  simp only [extent, List.flatMap_append, List.length_append]

/-- Records that follow one another without gap, the first of them at an offset. -/
def Consecutive : Nat → List Record → Prop
  | _, [] => True
  | start, record :: rest => record.offset = start ∧ Consecutive record.next rest

namespace Consecutive

theorem append {start : Nat} {first second : List Record} :
    Consecutive start (first ++ second) ↔
      Consecutive start first ∧ Consecutive (start + extent first) second := by
  induction first generalizing start with
  | nil => simp [Consecutive, extent]
  | cons record rest ih =>
    simp only [List.cons_append, Consecutive, ih, extent_cons, next, and_assoc]
    constructor
    · rintro ⟨rfl, first, second⟩
      exact ⟨rfl, first, by rwa [← Nat.add_assoc]⟩
    · rintro ⟨rfl, first, second⟩
      exact ⟨rfl, first, by rwa [Nat.add_assoc]⟩

theorem within {start : Nat} {records : List Record} (placed : Consecutive start records)
    {record : Record} (member : record ∈ records) :
    start ≤ record.offset ∧ record.next ≤ start + extent records := by
  obtain ⟨before, after, rfl⟩ := List.append_of_mem member
  obtain ⟨_, same, _⟩ := append.mp placed
  simp only [extent_append, extent_cons, next, same]
  omega

theorem pairwise {start : Nat} {records : List Record} (placed : Consecutive start records) :
    records.Pairwise fun earlier later => earlier.next ≤ later.offset := by
  induction records generalizing start with
  | nil => exact .nil
  | cons record rest ih =>
    obtain ⟨_, later⟩ := placed
    exact .cons (fun other member => (within later member).1) (ih later)

theorem increasing {start : Nat} {records : List Record} (placed : Consecutive start records) :
    records.Pairwise fun earlier later => earlier.offset < later.offset := by
  refine placed.pairwise.imp fun {earlier later} behind => ?_
  have positive := earlier.size_pos
  simp only [next] at behind
  omega

theorem eq_of_offset {start : Nat} {records : List Record} (placed : Consecutive start records)
    {first second : Record} (left : first ∈ records) (right : second ∈ records)
    (same : first.offset = second.offset) : first = second := by
  have distinct : (records.map Record.offset).Nodup := List.pairwise_map.mpr (placed.increasing.imp Nat.ne_of_lt)
  exact List.inj_on_of_nodup_map distinct left right same

theorem eq_of_next {start : Nat} {records : List Record} (placed : Consecutive start records)
    {first second : Record} (left : first ∈ records) (right : second ∈ records)
    (same : first.next = second.next) : first = second := by
  have distinct : (records.map Record.next).Nodup := by
    refine List.pairwise_map.mpr (placed.pairwise.imp fun {earlier later} behind equal => ?_)
    have positive := later.size_pos
    simp only [next] at behind equal
    omega
  exact List.inj_on_of_nodup_map distinct left right same

/-- No other record begins before a record ends. -/
theorem eq_of_covers {start : Nat} {records : List Record} (placed : Consecutive start records)
    {first second : Record} (left : first ∈ records) (right : second ∈ records)
    (after : first.offset ≤ second.offset) (before : second.offset < first.next) : first = second := by
  obtain ⟨earlier, later, rfl⟩ := List.append_of_mem left
  obtain ⟨front, begins, back⟩ := append.mp placed
  have positive := second.size_pos
  rcases List.mem_append.mp right with member | member
  · have bound := (within front member).2
    simp only [next] at bound
    omega
  · rcases List.mem_cons.mp member with rfl | member
    · rfl
    · have bound := (within back member).1
      omega

theorem slice {records : List Record} (placed : Consecutive 0 records) {record : Record}
    (member : record ∈ records) :
    Bytes.slice (records.flatMap Record.bytes) record.offset record.size = .ok record.bytes := by
  obtain ⟨before, after, rfl⟩ := List.append_of_mem member
  obtain ⟨_, offset, _⟩ := append.mp placed
  rw [Nat.zero_add] at offset
  rw [List.flatMap_append, List.flatMap_cons, ← List.append_assoc]
  exact Bytes.slice_middle _ _ _ offset.symm rfl

theorem find?_offset {start : Nat} {records : List Record} (placed : Consecutive start records)
    {record : Record} (member : record ∈ records) {offset : Nat} (here : record.offset = offset) :
    records.find? (·.offset = offset) = some record := by
  cases found : records.find? (·.offset = offset) with
  | none => simpa [here] using List.find?_eq_none.mp found record member
  | some other =>
    have there : other.offset = offset := by simpa using List.find?_some found
    rw [placed.eq_of_offset (List.mem_of_find?_eq_some found) member (there.trans here.symm)]

/-- The records between two offsets at which records begin. -/
theorem filter_between {start lower upper : Nat} {before middle after : List Record}
    (placed : Consecutive start (before ++ middle ++ after)) (begins : lower = start + extent before)
    (ends : upper = lower + extent middle) :
    (before ++ middle ++ after).filter (fun record => lower ≤ record.offset ∧ record.offset < upper) = middle := by
  obtain ⟨front, later⟩ := append.mp placed
  obtain ⟨earlier, inner⟩ := append.mp front
  rw [extent_append] at later
  have none : before.filter (fun record => lower ≤ record.offset ∧ record.offset < upper) = [] := by
    refine List.filter_eq_nil_iff.mpr fun record member => ?_
    have bound := (within earlier member).2
    have positive := record.size_pos
    simp only [next] at bound
    simp only [decide_eq_true_eq]
    omega
  have all : middle.filter (fun record => lower ≤ record.offset ∧ record.offset < upper) = middle := by
    refine List.filter_eq_self.mpr fun record member => ?_
    have bound := within inner member
    have positive := record.size_pos
    simp only [next] at bound
    simp only [decide_eq_true_eq]
    omega
  have rest : after.filter (fun record => lower ≤ record.offset ∧ record.offset < upper) = [] := by
    refine List.filter_eq_nil_iff.mpr fun record member => ?_
    have bound := (within later member).1
    simp only [decide_eq_true_eq]
    omega
  simp only [List.filter_append, none, all, rest, List.nil_append, List.append_nil]

end Consecutive

end FilterWatch.Record

namespace FilterWatch.Table
open Proofs.Outcomes Record

private theorem recordsFrom_sound {entries : Bytes} {offset : Nat} {records : List Record}
    (inside : offset ≤ entries.length) (read : recordsFrom entries offset = .ok records) :
    Consecutive offset records ∧ entries.drop offset = records.flatMap Record.bytes ∧
      ∀ record ∈ records, record.Announced := by
  fun_induction recordsFrom entries offset generalizing records with
  | case1 offset more error parsed => cases read
  | case2 offset more record parsed ih =>
    obtain ⟨rest, remaining, rfl⟩ := map_eq_ok.mp read
    obtain ⟨rfl, whole, announced⟩ := parse_eq_ok.mp parsed
    obtain ⟨fits, bytes⟩ := Bytes.slice_eq_ok.mp whole
    obtain ⟨placed, same, others⟩ := ih fits remaining
    refine ⟨⟨rfl, placed⟩, ?_, ?_⟩
    · rw [List.flatMap_cons, ← same, ← List.drop_drop, ← bytes, List.take_append_drop]
    · intro other member
      rcases List.mem_cons.mp member with rfl | member
      · exact announced
      · exact others other member
  | case3 offset done =>
    cases read
    refine ⟨trivial, ?_, by simp⟩
    rw [List.flatMap_nil, List.drop_eq_nil_iff]
    omega

private theorem recordsFrom_complete {entries : Bytes} {offset : Nat} {records : List Record}
    (placed : Consecutive offset records) (same : entries.drop offset = records.flatMap Record.bytes)
    (announced : ∀ record ∈ records, record.Announced) : recordsFrom entries offset = .ok records := by
  induction records generalizing offset with
  | nil =>
    rw [List.flatMap_nil, List.drop_eq_nil_iff] at same
    unfold recordsFrom
    rw [if_neg (Nat.not_lt.mpr same)]
  | cons record rest ih =>
    obtain ⟨rfl, placed⟩ := placed
    rw [List.flatMap_cons] at same
    have length := congrArg List.length same
    simp only [List.length_drop, List.length_append] at length
    have positive := record.size_pos
    have fits : record.offset + record.size ≤ entries.length := by
      simp only [size] at positive ⊢
      omega
    have parsed : parse entries record.offset = .ok record := by
      refine parse_eq_ok.mpr ⟨rfl, Bytes.slice_eq_ok.mpr ⟨fits, ?_⟩, announced record (by simp)⟩
      rw [same]
      exact List.take_left
    have remaining : entries.drop record.next = rest.flatMap Record.bytes := by
      rw [next, ← List.drop_drop, same]
      exact List.drop_left
    have others := ih placed remaining fun other member => announced other (by simp [member])
    unfold recordsFrom
    rw [if_pos (by omega), parsed]
    simp only [next] at others
    simp only [others]
    rfl

theorem recordsFrom_eq_ok {entries : Bytes} {records : List Record} :
    recordsFrom entries 0 = .ok records ↔
      Consecutive 0 records ∧ entries = records.flatMap Record.bytes ∧
        ∀ record ∈ records, record.Announced :=
  ⟨recordsFrom_sound (Nat.zero_le _), fun ⟨placed, same, announced⟩ =>
    recordsFrom_complete placed same announced⟩

/-- The records of a table follow one another over all of its bytes, and each can be parsed where
it stands. -/
theorem recordsFrom_iff_parsed {entries : Bytes} {records : List Record} :
    recordsFrom entries 0 = .ok records ↔
      Consecutive 0 records ∧ entries = records.flatMap Record.bytes ∧
        ∀ record ∈ records, parse entries record.offset = .ok record := by
  rw [recordsFrom_eq_ok]
  constructor
  · rintro ⟨placed, same, announced⟩
    refine ⟨placed, same, fun record member => parse_eq_ok.mpr ⟨rfl, ?_, announced record member⟩⟩
    rw [same]
    exact placed.slice member
  · rintro ⟨placed, same, parsed⟩
    exact ⟨placed, same, fun record member => (parse_eq_ok.mp (parsed record member)).2.2⟩

end FilterWatch.Table
