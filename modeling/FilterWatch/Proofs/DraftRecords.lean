import FilterWatch.Draft.Rule
import FilterWatch.Proofs.RecordRuns

/-! The record that a drafted rule becomes. What its layout wrote, the readers of records find
again, wherever the record stands. -/

namespace FilterWatch.RuleDraft
open Proofs.Outcomes

/-- A target block whose name and data fit. -/
def filledTarget (rule : RuleDraft) (name : String) (data : Bytes) : Bytes :=
  Bytes.ofNat 2 rule.targetSize ++ (Bytes.ofText name).padTo Record.extensionNameWidth ++ [0] ++
    data.padTo (rule.targetSize - Record.blockHeaderSize)

/-- The record of a rule at an offset; without a target block if the rule has no content for one. -/
def image (rule : RuleDraft) (startOf : String → Except DraftError Nat) (offset : Nat) : Record where
  offset := offset
  bytes := rule.header ++ rule.blocks.flatten ++
    match rule.targetContent startOf offset with
    | .ok (name, data) => rule.filledTarget name data
    | .error _ => []
  targetOffset := rule.targetOffset
  header_le := Nat.le_add_right _ _
  target_le := by
    simp only [List.length_append]
    exact Nat.le_trans (Nat.add_le_add_right (Nat.le_refl 112) _) (Nat.le_add_right _ _)

theorem length_header (rule : RuleDraft) : rule.header.length = Record.headerSize := by
  simp [header, Address.octets, Bytes.ofWord16, Bytes.length_ofNat, Bytes.length_zeros, Record.headerSize]

/-- The two offsets stand at the end of the header's first 92 bytes. -/
theorem header_offsets (rule : RuleDraft) : ∃ front : Bytes, front.length = 88 ∧
    rule.header = front ++ Bytes.ofNat 2 rule.targetOffset ++ Bytes.ofNat 2 rule.size ++ Bytes.zeros 20 :=
  ⟨_, rfl, rfl⟩

theorem length_front (rule : RuleDraft) : (rule.header ++ rule.blocks.flatten).length = rule.targetOffset := by
  simp only [List.length_append, length_header, targetOffset]

theorem le_targetSize (rule : RuleDraft) : Record.blockHeaderSize ≤ rule.targetSize := by
  unfold targetSize
  split <;> simp only [Draft.align, Record.blockHeaderSize, Record.chainNameWidth] <;> omega

/-- The content of a target block, with a name and data that fit. -/
structure Content (rule : RuleDraft) (startOf : String → Except DraftError Nat) (offset : Nat)
    (name : String) (data : Bytes) : Prop where
  content : rule.targetContent startOf offset = .ok (name, data)
  named : (Bytes.ofText name).length < Record.extensionNameWidth
  plain : 0 ∉ Bytes.ofText name
  fits : Record.blockHeaderSize + data.length ≤ rule.targetSize

theorem targetBlock_eq {rule : RuleDraft} {name : String} {data : Bytes}
    (named : (Bytes.ofText name).length < Record.extensionNameWidth)
    (fits : Record.blockHeaderSize + data.length ≤ rule.targetSize) :
    rule.targetBlock name data = .ok (rule.filledTarget name data) := by
  simp only [Record.extensionNameWidth] at named
  simp only [Record.blockHeaderSize] at fits
  have blank : (Bytes.ofNat 2 rule.targetSize).padTo rule.targetSize =
      Bytes.ofNat 2 rule.targetSize ++ Bytes.zeros (Bytes.ofText name).length ++
        Bytes.zeros (rule.targetSize - 2 - (Bytes.ofText name).length) := by
    rw [List.append_assoc, ← Bytes.zeros_add, Bytes.padTo, Bytes.length_ofNat]
    congr 2
    omega
  have behind : Bytes.zeros (rule.targetSize - 2 - (Bytes.ofText name).length) =
      Bytes.zeros (29 - (Bytes.ofText name).length) ++ [0] ++ Bytes.zeros data.length ++
        Bytes.zeros (rule.targetSize - 32 - data.length) := by
    have one : ([0] : Bytes) = Bytes.zeros 1 := rfl
    rw [one, ← Bytes.zeros_add, ← Bytes.zeros_add, ← Bytes.zeros_add]
    congr 1
    omega
  have front : (Bytes.ofNat 2 rule.targetSize ++ (Bytes.ofText name).padTo 29 ++ [0]).length = 32 := by
    simp only [List.length_append, Bytes.length_ofNat, Bytes.length_padTo (Nat.le_of_lt named),
      List.length_singleton]
  unfold targetBlock
  rw [blank, Bytes.write?_middle _ _ _ _ (Bytes.length_ofNat 2 _) (Bytes.length_zeros _), behind]
  have written := Bytes.write?_middle _ (Bytes.zeros data.length) data
    (Bytes.zeros (rule.targetSize - 32 - data.length)) front (Bytes.length_zeros _)
  simp only [Bytes.padTo, List.append_assoc] at written
  simp only [Option.bind_some, Record.blockHeaderSize, List.append_assoc, written]
  simp only [filledTarget, Bytes.padTo, Record.extensionNameWidth, Record.blockHeaderSize, List.append_assoc]

namespace Content

variable {rule : RuleDraft} {startOf : String → Except DraftError Nat} {offset : Nat}
  {name : String} {data : Bytes}

theorem image_bytes (content : rule.Content startOf offset name data) :
    (rule.image startOf offset).bytes =
      rule.header ++ rule.blocks.flatten ++ rule.filledTarget name data := by
  simp only [image, content.content]

theorem encode (content : rule.Content startOf offset name data) :
    rule.encode startOf offset = .ok (rule.image startOf offset).bytes := by
  rw [content.image_bytes]
  unfold RuleDraft.encode
  simp only [content.content, targetBlock_eq content.named content.fits, bind, Except.bind]
  rfl

theorem length_filledTarget (content : rule.Content startOf offset name data) :
    (rule.filledTarget name data).length = rule.targetSize := by
  have room := content.fits
  simp only [filledTarget, List.length_append, Bytes.length_ofNat, List.length_singleton,
    Bytes.length_padTo (Nat.le_of_lt content.named),
    Bytes.length_padTo (show data.length ≤ rule.targetSize - Record.blockHeaderSize by omega)]
  simp only [Record.extensionNameWidth, Record.blockHeaderSize] at room ⊢
  omega

theorem image_size (content : rule.Content startOf offset name data) :
    (rule.image startOf offset).size = rule.size := by
  simp only [Record.size, content.image_bytes, List.length_append, content.length_filledTarget,
    length_header, size, targetOffset]

theorem image_announced (content : rule.Content startOf offset name data) (short : rule.size < 65536) :
    (rule.image startOf offset).Announced := by
  obtain ⟨front, length, same⟩ := rule.header_offsets
  refine ⟨?_, ?_, by rwa [content.image_size]⟩
  · rw [content.image_bytes, same]
    simp only [List.append_assoc]
    rw [← List.append_assoc]
    exact Bytes.word16At_middle front rule.targetOffset _ length
  · rw [content.image_bytes, content.image_size, same]
    have before : (front ++ Bytes.ofNat 2 rule.targetOffset).length = 90 := by
      rw [List.length_append, length, Bytes.length_ofNat]
    simp only [List.append_assoc]
    rw [← List.append_assoc, ← List.append_assoc]
    exact Bytes.word16At_middle _ rule.size _ before

theorem filledTarget_read (content : rule.Content startOf offset name data) :
    (rule.filledTarget name data).nameAt 2 Record.extensionNameWidth = .ok name ∧
      (rule.filledTarget name data).byteAt 31 = .ok 0 ∧
      (rule.filledTarget name data).slice Record.blockHeaderSize
        (rule.targetSize - Record.blockHeaderSize) =
        .ok (data.padTo (rule.targetSize - Record.blockHeaderSize)) := by
  have room := content.fits
  have named : (Bytes.ofNat 2 rule.targetSize ++
      (Bytes.ofText name).padTo Record.extensionNameWidth).length = 31 := by
    rw [List.length_append, Bytes.length_ofNat, Bytes.length_padTo (Nat.le_of_lt content.named)]
    rfl
  have front : (Bytes.ofNat 2 rule.targetSize ++
      (Bytes.ofText name).padTo Record.extensionNameWidth ++ [0]).length = Record.blockHeaderSize := by
    rw [List.length_append, named]
    rfl
  refine ⟨?_, Bytes.byteAt_middle _ 0 _ named, ?_⟩
  · have read := Bytes.nameAt_padded (Bytes.ofNat 2 rule.targetSize) name
      ([0] ++ data.padTo (rule.targetSize - Record.blockHeaderSize)) (Bytes.length_ofNat 2 _) content.named
      content.plain
    rwa [← List.append_assoc] at read
  · have read := Bytes.slice_middle _ (data.padTo (rule.targetSize - Record.blockHeaderSize)) [] front
      (Bytes.length_padTo (by omega))
    rwa [List.append_nil] at read

theorem image_target (content : rule.Content startOf offset name data) (short : rule.size < 65536) :
    (rule.image startOf offset).target =
      .ok (some ⟨name, 0, data.padTo (rule.targetSize - Record.blockHeaderSize)⟩) := by
  have room := rule.le_targetSize
  have sizes : rule.size = rule.targetOffset + rule.targetSize := rfl
  have announced : (UInt16.ofNat rule.targetSize).toNat = rule.targetSize := by
    rw [UInt16.toNat_ofNat']
    omega
  have size : (rule.image startOf offset).bytes.word16At rule.targetOffset =
      .ok (UInt16.ofNat rule.targetSize) := by
    have read := Bytes.word16At_middle _ rule.targetSize
      ((Bytes.ofText name).padTo Record.extensionNameWidth ++ [0] ++
        data.padTo (rule.targetSize - Record.blockHeaderSize)) rule.length_front
    rw [List.append_assoc] at read
    rw [content.image_bytes, filledTarget, List.append_assoc (Bytes.ofNat 2 rule.targetSize),
      List.append_assoc (Bytes.ofNat 2 rule.targetSize)]
    exact read
  have block : (rule.image startOf offset).bytes.slice rule.targetOffset rule.targetSize =
      .ok (rule.filledTarget name data) := by
    have read := Bytes.slice_middle _ (rule.filledTarget name data) [] rule.length_front
      content.length_filledTarget
    rwa [List.append_nil, ← content.image_bytes] at read
  obtain ⟨named, revision, filled⟩ := content.filledTarget_read
  have offsetSame : (rule.image startOf offset).targetOffset = rule.targetOffset := rfl
  unfold Record.target
  have placed : rule.targetOffset ≠ rule.size := by
    rw [sizes]
    exact Nat.ne_of_lt (Nat.lt_add_of_pos_right (Nat.lt_of_lt_of_le (by decide) room))
  rw [offsetSame, content.image_size, if_neg placed]
  simp only [size, announced, bind, Except.bind]
  rw [if_neg (by omega)]
  simp only [block, named, revision, filled]
  rfl

end Content

end FilterWatch.RuleDraft
