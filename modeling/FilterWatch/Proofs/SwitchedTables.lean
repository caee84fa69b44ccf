import FilterWatch.Proofs.Conversation
import FilterWatch.Proofs.DraftAnatomy
import FilterWatch.Proofs.HookData
import FilterWatch.Proofs.HookSpans
import FilterWatch.Proofs.InfoEncoding

/-! A table that is replaced between the two reads of a snapshot. The second answer is tied to the first by the size of
the records, by their number, and by the offsets of the hooks, which have to be those of records. -/

namespace FilterWatch
open Proofs.Outcomes

namespace Kernel

variable {kernel : Kernel} {name : String} {table : Table}

/-- The kernel holds one table when it is asked for the info and another when it is asked for the
records, which it gives in full only if they take as many bytes as were asked for. -/
structure Switches (kernel : Kernel) (first second : TableInfo × Bytes) : Prop where
  info : ∀ buffer data, kernel.info buffer = .filled data buffer.length → data = first.1.encode
  entries : ∀ field size data, field.length = TableInfo.nameWidth →
    kernel.entries (entriesRequest field size) = .filled data (entriesRequest field size).length →
    size = second.1.size ∧ ∃ header, header.length = entriesHeaderSize ∧ data = header ++ second.2

theorem Switches.ofSnapshot {first second : TableInfo × Bytes} (switches : kernel.Switches first second)
    (sized : second.1.size.toNat = second.2.length) (taken : (kernel.snapshot name).value = .ok (some table)) :
    first.1.size = second.1.size ∧ ∃ name, Table.ofSnapshot { first.1 with name } second.2 = .ok table := by
  obtain ⟨valid, _, _, front, entries, info, ⟨data, answer, rfl⟩, parsed, ⟨records, reply, same⟩, behind, _, accepted⟩ :=
    snapshot_eq_some.mp taken
  rw [switches.info _ _ answer,
    Bytes.overlay_whole (by rw [TableInfo.length_encode, length_infoBuffer valid]; rfl)] at parsed
  obtain ⟨own, rfl⟩ := TableInfo.parse_encode parsed
  rw [← entriesRequest_eq valid] at reply
  obtain ⟨size, header, long, rfl⟩ := switches.entries _ _ _ (length_paddedName valid) reply
  have whole : (header ++ second.2).length = (entriesBuffer name first.1.size).length := by
    rw [length_entriesBuffer valid, List.length_append, long, size, sized]
    rfl
  rw [Bytes.overlay_whole whole] at same
  obtain ⟨_, rfl⟩ := List.append_inj same (behind.trans long.symm)
  exact ⟨size, own, accepted⟩

end Kernel

/-! Two tables of the same size with the same hooks, which both drop what comes in. Read across
the switch from one to the other, incoming packets seem to be accepted. -/

namespace TableDraft

def before : TableDraft where
  name := "filter"
  builtins := [
    { hook := .input, policy := Verdict.drop, rules := [.unconditional (.verdict Verdict.accept)] },
    { hook := .output, policy := Verdict.accept, rules := [] }]
  chains := []

def after : TableDraft where
  name := "filter"
  builtins := [
    { hook := .input, policy := Verdict.drop, rules := [] },
    { hook := .output, policy := Verdict.drop, rules := [.unconditional (.verdict Verdict.accept)] }]
  chains := []

theorem before_valid : before.Valid := by decide

/-- The records of the one table as the chains of the other. -/
def between : List Chain :=
  let record (code : Int32) (offset : Nat) := (RuleDraft.unconditional (.verdict code)).image after.startOf offset
  [{ name := "INPUT", kind := .builtin .input (record Verdict.accept 152), start := 0,
      rules := [record Verdict.drop 0] },
    { name := "OUTPUT", kind := .builtin .output (record Verdict.drop 304), start := 304, rules := [] }]

end TableDraft

end FilterWatch
