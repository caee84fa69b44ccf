import FilterWatch.Table.Info
import FilterWatch.Proofs.ByteReading

/-! An info that is read from its own encoding is the same up to the name, of which the encoding
keeps only what fits. -/

namespace FilterWatch
open Proofs.Outcomes

namespace Bytes

theorem word32At_words (front : Bytes) (words : List UInt32) {index : Nat} (inside : index < words.length) :
    (front ++ words.flatMap ofWord32).word32At (front.length + 4 * index) = .ok words[index] := by
  have split := (List.take_append_drop index words).symm
  rw [List.drop_eq_getElem_cons inside] at split
  have bytes : words.flatMap ofWord32 = (words.take index).flatMap ofWord32 ++ ofWord32 words[index] ++
      (words.drop (index + 1)).flatMap ofWord32 := by
    conv => lhs; rw [split]
    simp only [List.flatMap_append, List.flatMap_cons, List.append_assoc]
  have starts : (front ++ (words.take index).flatMap ofWord32).length = front.length + 4 * index := by
    rw [List.length_append, length_flatMap_of_width length_ofWord32, List.length_take,
      Nat.min_eq_left (Nat.le_of_lt inside)]
  have read := word32At_middle _ words[index].toNat ((words.drop (index + 1)).flatMap ofWord32) starts
  rw [UInt32.ofNat_toNat] at read
  rw [bytes, ← List.append_assoc, ← List.append_assoc]
  exact read

end Bytes

namespace TableInfo

def nameField (info : TableInfo) : Bytes := ((Bytes.ofText info.name).padTo nameWidth).take nameWidth

/-- The words behind the name, in order. -/
def words (info : TableInfo) : List UInt32 :=
  info.validHooks :: info.hookEntry.toList ++ info.underflow.toList ++ [info.entryCount, info.size]

theorem length_nameField (info : TableInfo) : info.nameField.length = 32 := by
  simp only [nameField, Bytes.padTo, List.length_take, List.length_append, Bytes.length_zeros, nameWidth]
  omega

theorem encode_eq (info : TableInfo) : info.encode = info.nameField ++ info.words.flatMap Bytes.ofWord32 := by
  simp only [encode, nameField, words, List.flatMap_append, List.flatMap_cons, List.flatMap_nil, List.append_assoc,
    List.append_nil, List.cons_append]

theorem length_encode (info : TableInfo) : info.encode.length = encodedSize := by
  rw [encode_eq, List.length_append, length_nameField, Bytes.length_flatMap_of_width Bytes.length_ofWord32]
  rfl

theorem word_encode (info : TableInfo) (index : Nat) {word : UInt32} (found : info.words[index]? = some word) :
    info.encode.word32At (32 + 4 * index) = .ok word := by
  obtain ⟨inside, rfl⟩ := List.getElem?_eq_some_iff.mp found
  have read := Bytes.word32At_words info.nameField info.words inside
  rwa [length_nameField, ← encode_eq] at read

theorem hookEntry_encode (info : TableInfo) (hook : Hook) :
    info.encode.word32At (hookEntryAt hook) = .ok (info.hookEntry.get hook) := by
  have found : info.words[1 + hook.number]? = some (info.hookEntry.get hook) := by cases hook <;> rfl
  exact (congrArg info.encode.word32At (by rw [hookEntryAt]; omega)).trans (word_encode info _ found)

theorem underflow_encode (info : TableInfo) (hook : Hook) :
    info.encode.word32At (underflowAt hook) = .ok (info.underflow.get hook) := by
  have found : info.words[6 + hook.number]? = some (info.underflow.get hook) := by cases hook <;> rfl
  exact (congrArg info.encode.word32At (by rw [underflowAt]; omega)).trans (word_encode info _ found)

theorem parse_encode_eq (info : TableInfo) :
    parse info.encode = (info.encode.nameAt 0 nameWidth).map fun name => { info with name } := by
  have valid : info.encode.word32At 32 = .ok info.validHooks := word_encode info 0 rfl
  have count : info.encode.word32At 76 = .ok info.entryCount := word_encode info 11 rfl
  have size : info.encode.word32At 80 = .ok info.size := word_encode info 12 rfl
  simp only [parse, hookEntry_encode, underflow_encode, valid, count, size, ok_bind]
  cases info.encode.nameAt 0 nameWidth <;> rfl

theorem parse_encode {info read : TableInfo} (parsed : parse info.encode = .ok read) :
    ∃ name, read = { info with name } := by
  rw [parse_encode_eq] at parsed
  obtain ⟨name, _, rfl⟩ := map_eq_ok.mp parsed
  exact ⟨name, rfl⟩

theorem parse_encode_named {info : TableInfo} (fits : (Bytes.ofText info.name).length < nameWidth)
    (plain : 0 ∉ Bytes.ofText info.name) : parse info.encode = .ok info := by
  have field : info.nameField = (Bytes.ofText info.name).padTo nameWidth :=
    List.take_of_length_le (Nat.le_of_eq (Bytes.length_padTo (Nat.le_of_lt fits)))
  have named : info.encode.nameAt 0 nameWidth = .ok info.name := by
    rw [encode_eq, field]
    exact Bytes.nameAt_padded [] info.name _ rfl fits plain
  rw [parse_encode_eq, named]
  rfl

end TableInfo

end FilterWatch
