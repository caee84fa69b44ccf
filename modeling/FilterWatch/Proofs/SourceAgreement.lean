import FilterWatch.Proofs.SwitchedTables

/-! A table that the kernel holds and the same table stored in memory. Both sources show the same of it,
also where the records are not those of a table. -/

namespace FilterWatch
open Proofs.Outcomes

namespace Kernel

/-- The kernel holds a table: it tells the info to every buffer of the right size, and copies the
records behind the header of every buffer that is larger than them by the header, as long as the
length of the buffer is a word of 32 bits. -/
structure Holds (kernel : Kernel) (info : TableInfo) (entries : Bytes) : Prop where
  opened : kernel.socket = none
  told : ∀ buffer : Bytes, buffer.length = 84 → kernel.info buffer = .filled info.encode buffer.length
  given : ∀ buffer : Bytes, buffer.length = 40 + entries.length → buffer.length < 4294967296 →
    ∃ header : Bytes, header.length = 40 ∧ kernel.entries buffer = .filled (header ++ entries) buffer.length

variable {kernel : Kernel} {info : TableInfo} {entries : Bytes}

theorem Holds.shown (holds : kernel.Holds info entries) (valid : IsTableName info.name)
    (sized : info.size.toNat = entries.length) (bounded : info.size.toNat < 4294967296 - 40) :
    (kernel.snapshot info.name).value = ((Table.ofSnapshot info entries).mapError .layout).map some := by
  have infoSize := length_infoBuffer valid
  have entriesSize := length_entriesBuffer valid info.size
  obtain ⟨header, behind, answer⟩ := holds.given (entriesBuffer info.name info.size) (by omega) (by omega)
  have told : Fills (infoBuffer info.name) (kernel.info (infoBuffer info.name)) info.encode := by
    refine ⟨info.encode, holds.told _ infoSize, (Bytes.overlay_whole ?_).symm⟩
    rw [infoSize, info.length_encode]
    rfl
  have given : Fills (entriesBuffer info.name info.size) (kernel.entries (entriesBuffer info.name info.size))
      (header ++ entries) := by
    refine ⟨header ++ entries, answer, (Bytes.overlay_whole ?_).symm⟩
    rw [entriesSize, List.length_append, behind, sized]
  have read : TableInfo.parse info.encode = .ok info :=
    TableInfo.parse_encode_named valid.short fun zero => valid.plain (Bytes.zero_mem_ofText.mp zero)
  exact (Conversation.complete valid holds.opened told read given behind sized.symm).held.2

theorem holding_holds (info : TableInfo) (entries : Bytes) : (holding info entries).Holds info entries := by
  refine ⟨rfl, fun buffer _ => rfl, fun buffer long _ => ⟨buffer.take entriesHeaderSize, ?_, rfl⟩⟩
  rw [List.length_take, long]
  exact Nat.min_eq_left (Nat.le_add_right 40 _)

end Kernel

namespace StoredTables

theorem snapshot_last (others : StoredTables) (info : TableInfo) (entries : Bytes) (table : String) :
    StoredTables.snapshot (others ++ [(info, entries)]) table =
      if info.name = table then some <$> Attempt.ofExcept ((Table.ofSnapshot info entries).mapError .layout)
      else StoredTables.snapshot others table := by
  simp only [StoredTables.snapshot, List.reverse_append, List.reverse_singleton, List.singleton_append, List.find?_cons]
  by_cases named : info.name = table <;> simp [named]

theorem shown (others : StoredTables) (info : TableInfo) (entries : Bytes) :
    (StoredTables.snapshot (others ++ [(info, entries)]) info.name).value =
      ((Table.ofSnapshot info entries).mapError .layout).map some := by
  rw [snapshot_last, if_pos rfl, Attempt.value_map, Attempt.value_ofExcept]

end StoredTables

/-- A table that the kernel holds is shown as if it were stored. -/
theorem Kernel.snapshot_eq_stored {kernel : Kernel} {info : TableInfo} {entries : Bytes}
    (holds : kernel.Holds info entries) (valid : IsTableName info.name)
    (sized : info.size.toNat = entries.length) (bounded : info.size.toNat < 4294967296 - 40)
    (others : StoredTables) :
    (kernel.snapshot info.name).value = (StoredTables.snapshot (others ++ [(info, entries)]) info.name).value ∧
      ((∃ table, Table.ofSnapshot info entries = .ok table ∧ (kernel.snapshot info.name).value = .ok (some table)) ∨
        ∃ error, Table.ofSnapshot info entries = .error error ∧
          (kernel.snapshot info.name).value = .error (.layout error)) := by
  have shown := holds.shown valid sized bounded
  refine ⟨shown.trans (StoredTables.shown others info entries).symm, ?_⟩
  rw [shown]
  cases Table.ofSnapshot info entries with
  | ok table => exact .inl ⟨table, rfl, rfl⟩
  | error error => exact .inr ⟨error, rfl, rfl⟩

namespace TableDraft

theorem before_sized : before.builtInfo.size.toNat = before.builtEntries.length := by decide +kernel

/-- No records at all in the bytes of a table. -/
def blank : Bytes := Bytes.zeros before.builtEntries.length

theorem blank_refused : Table.ofSnapshot before.builtInfo blank = .error (.invalidNextOffset 0 0) := by
  decide +kernel

theorem snapshot_eq_stored_before : IsTableName before.builtInfo.name ∧
    before.builtInfo.size.toNat < 4294967296 - 40 ∧
    before.builtInfo.size.toNat = before.builtEntries.length ∧
    (Kernel.holding before.builtInfo before.builtEntries).Holds before.builtInfo before.builtEntries ∧
    ((Kernel.holding before.builtInfo before.builtEntries).snapshot "filter").value = .ok (some before.built) ∧
    (StoredTables.snapshot [(before.builtInfo, before.builtEntries)] "filter").value = .ok (some before.built) ∧
    before.builtInfo.size.toNat = blank.length ∧
    (Kernel.holding before.builtInfo blank).Holds before.builtInfo blank ∧
    ((Kernel.holding before.builtInfo blank).snapshot "filter").value = .error (.layout (.invalidNextOffset 0 0)) ∧
    (StoredTables.snapshot [(before.builtInfo, blank)] "filter").value =
      .error (.layout (.invalidNextOffset 0 0)) := by
  have valid : IsTableName before.builtInfo.name := ⟨by decide, by decide, by decide⟩
  have bounded : before.builtInfo.size.toNat < 4294967296 - 40 := by decide +kernel
  have blankSized : before.builtInfo.size.toNat = blank.length := by
    rw [before_sized, blank, Bytes.zeros, List.length_replicate]
  have whole := Kernel.holding_holds before.builtInfo before.builtEntries
  have empty := Kernel.holding_holds before.builtInfo blank
  have accepted : ((Kernel.holding before.builtInfo before.builtEntries).snapshot "filter").value =
      .ok (some before.built) := by
    obtain ⟨_, ⟨table, read, shown⟩ | ⟨error, failed, _⟩⟩ :=
      Kernel.snapshot_eq_stored whole valid before_sized bounded []
    · exact shown.trans (congrArg (Except.ok ∘ some) (Except.ok.inj (read.symm.trans before_valid.accepted.2)))
    · cases failed.symm.trans before_valid.accepted.2
  have refused : ((Kernel.holding before.builtInfo blank).snapshot "filter").value =
      .error (.layout (.invalidNextOffset 0 0)) := by
    obtain ⟨_, ⟨table, read, _⟩ | ⟨error, failed, shown⟩⟩ :=
      Kernel.snapshot_eq_stored empty valid blankSized bounded []
    · cases read.symm.trans blank_refused
    · cases failed.symm.trans blank_refused
      exact shown
  have same := (Kernel.snapshot_eq_stored whole valid before_sized bounded []).1
  have blankSame := (Kernel.snapshot_eq_stored empty valid blankSized bounded []).1
  exact ⟨valid, bounded, before_sized, whole, accepted, same.symm.trans accepted, blankSized, empty, refused,
    blankSame.symm.trans refused⟩

end TableDraft

end FilterWatch
