import FilterWatch.Kernel
import FilterWatch.Proofs.ByteReading

/-! The names that a table can have, and the buffers in which the kernel is asked for the table of a
name. -/

namespace FilterWatch

namespace Bytes

theorem ofText_eq (text : String) : ofText text = text.toList.flatMap String.utf8EncodeChar := by
  rw [ofText, ← String.utf8Encode_toList, List.utf8Encode]
  simp

theorem length_ofText (text : String) : (ofText text).length = text.utf8ByteSize := rfl

/-- The zero character is the only one with a byte that is zero. -/
theorem zero_mem_utf8EncodeChar {c : Char} : 0 ∈ String.utf8EncodeChar c ↔ c = '\x00' := by
  have whole : c = '\x00' ↔ c.val.toNat = 0 := by
    rw [Char.ext_iff, ← UInt32.toNat_inj]
    rfl
  have digit : ∀ number : Nat, 0 = UInt8.ofNat number ↔ number % 256 = 0 := by
    intro number
    rw [eq_comm, ← UInt8.toNat_inj, UInt8.toNat_ofNat']
    rfl
  -- A character of several bytes has a mark in each of them.
  rw [whole]
  fun_cases String.utf8EncodeChar c <;>
    simp only [List.mem_cons, List.not_mem_nil, or_false, digit] <;> omega

theorem zero_mem_ofText {text : String} : 0 ∈ ofText text ↔ '\x00' ∈ text.toList := by
  simp only [ofText_eq, List.mem_flatMap, zero_mem_utf8EncodeChar, exists_eq_right]

theorem overlay_whole {region data : Bytes} (same : data.length = region.length) : region.overlay data = data := by
  rw [overlay, ← same, List.take_length, List.drop_eq_nil_of_le (by omega), List.append_nil]

end Bytes

structure IsTableName (name : String) : Prop where
  nonempty : name ≠ ""
  short : name.utf8ByteSize < 32
  plain : '\x00' ∉ name.toList

namespace Kernel

/-- What the buffer of the first read holds before it. -/
def infoBuffer (name : String) : Bytes := Bytes.ofText name ++ Bytes.zeros (84 - name.utf8ByteSize)

/-- What the buffer of the second read holds before it. -/
def entriesBuffer (name : String) (size : UInt32) : Bytes :=
  Bytes.ofText name ++ Bytes.zeros (32 - name.utf8ByteSize) ++ Bytes.ofWord32 size ++ Bytes.zeros (4 + size.toNat)

variable {name : String}

theorem tableName_of_valid (valid : IsTableName name) :
    tableName name = .ok ((Bytes.ofText name).padTo TableInfo.nameWidth) := by
  refine if_neg ?_
  rintro (empty | long | zero)
  · exact valid.nonempty (String.utf8ByteSize_eq_zero_iff.mp (congrArg List.length empty))
  · exact Nat.not_le.mpr valid.short long
  · exact valid.plain (Bytes.zero_mem_ofText.mp zero)

theorem tableName_of_invalid (invalid : ¬ IsTableName name) : tableName name = .error (.invalidTableName name) := by
  refine if_pos (Decidable.not_not.mp fun fits => ?_)
  simp only [not_or, Nat.not_le] at fits
  obtain ⟨nonempty, short, plain⟩ := fits
  refine invalid ⟨?_, short, fun zero => plain (Bytes.zero_mem_ofText.mpr zero)⟩
  rintro rfl
  exact nonempty rfl

theorem length_paddedName (valid : IsTableName name) :
    ((Bytes.ofText name).padTo TableInfo.nameWidth).length = 32 := Bytes.length_padTo (Nat.le_of_lt valid.short)

theorem infoRequest_eq (valid : IsTableName name) :
    infoRequest ((Bytes.ofText name).padTo TableInfo.nameWidth) = infoBuffer name := by
  have short := valid.short
  have rest : 84 - name.utf8ByteSize = 32 - name.utf8ByteSize + (84 - 32) := by omega
  rw [infoBuffer, rest, Bytes.zeros_add, ← List.append_assoc, infoRequest, Bytes.padTo,
    length_paddedName valid]
  rfl

theorem entriesRequest_eq (valid : IsTableName name) (size : UInt32) :
    entriesRequest ((Bytes.ofText name).padTo TableInfo.nameWidth) size = entriesBuffer name size := by
  have rest : entriesHeaderSize + size.toNat - (32 + 4) = 4 + size.toNat := by simp only [entriesHeaderSize]; omega
  rw [entriesRequest, Bytes.padTo, List.length_append, length_paddedName valid, Bytes.ofWord32, Bytes.length_ofNat, rest]
  rfl

theorem length_infoBuffer (valid : IsTableName name) : (infoBuffer name).length = 84 := by
  have short := valid.short
  simp only [infoBuffer, List.length_append, Bytes.length_ofText, Bytes.length_zeros]
  omega

theorem length_entriesBuffer (valid : IsTableName name) (size : UInt32) :
    (entriesBuffer name size).length = 40 + size.toNat := by
  have short := valid.short
  simp only [entriesBuffer, Bytes.ofWord32, List.length_append, Bytes.length_ofText, Bytes.length_zeros,
    Bytes.length_ofNat]
  omega

end Kernel

end FilterWatch
