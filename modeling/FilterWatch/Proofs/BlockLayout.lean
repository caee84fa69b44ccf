import FilterWatch.Draft.Block
import FilterWatch.Proofs.ByteReading

/-! Match blocks as they are laid out, one behind the other, and the walk that finds them again. -/

namespace FilterWatch
open Proofs.Outcomes

theorem Draft.le_align (size : Nat) : size ≤ align size := by
  unfold align
  omega

namespace MatchBlock

/-- The name fits its field and holds no zero that would end it early. -/
structure Named (block : MatchBlock) : Prop where
  short : (Bytes.ofText block.name).length ≤ 28
  plain : 0 ∉ Bytes.ofText block.name

/-- The block with zeros behind its data, up to the next multiple of eight. -/
def padded (block : MatchBlock) : MatchBlock :=
  { block with data := block.data.padTo (Draft.align block.data.length) }

/-- The bytes of a block with such a name. -/
def image (block : MatchBlock) : Bytes :=
  Bytes.ofNat 2 block.padded.size ++ (Bytes.ofText block.name).padTo Record.extensionNameWidth ++
    [block.revision] ++ block.padded.data

theorem length_padded (block : MatchBlock) : block.padded.data.length = Draft.align block.data.length :=
  Bytes.length_padTo (Draft.le_align _)

variable {block : MatchBlock}

theorem Named.fits (named : block.Named) : (Bytes.ofText block.name).length < Record.extensionNameWidth :=
  Nat.lt_succ_of_le named.short

theorem draft_eq (named : block.Named) : Draft.block block.name block.revision block.data = .ok block.image := by
  simp only [Draft.block, if_pos named.fits, image, size, length_padded]
  rfl

/-- The size and the name take the first 31 bytes. -/
theorem length_front (named : block.Named) : (Bytes.ofNat 2 block.padded.size ++
    (Bytes.ofText block.name).padTo Record.extensionNameWidth).length = 31 := by
  rw [List.length_append, Bytes.length_ofNat, Bytes.length_padTo (Nat.le_of_lt named.fits)]
  rfl

theorem length_image (named : block.Named) : block.image.length = block.padded.size := by
  rw [image, List.length_append, List.length_append, length_front named]
  rfl

theorem image_read (named : block.Named) : block.image.nameAt 2 Record.extensionNameWidth = .ok block.name ∧
    block.image.byteAt 31 = .ok block.revision ∧
    block.image.slice Record.blockHeaderSize (block.padded.size - Record.blockHeaderSize) = .ok block.padded.data := by
  have front := length_front named
  refine ⟨?_, Bytes.byteAt_middle _ block.revision _ front, ?_⟩
  · have read := Bytes.nameAt_padded (Bytes.ofNat 2 block.padded.size) block.name
      ([block.revision] ++ block.padded.data) (Bytes.length_ofNat 2 _) named.fits named.plain
    rwa [← List.append_assoc] at read
  · have header : (Bytes.ofNat 2 block.padded.size ++ (Bytes.ofText block.name).padTo Record.extensionNameWidth ++
        [block.revision]).length = Record.blockHeaderSize := by
      rw [List.length_append, front]
      rfl
    have room : block.padded.data.length = block.padded.size - Record.blockHeaderSize := by
      simp only [size, Nat.add_sub_cancel_left]
    have read := Bytes.slice_middle _ block.padded.data [] header room
    rwa [List.append_nil] at read

end MatchBlock

namespace Record

variable {record : Record} {before after : Bytes}

theorem matchAt_image {block : MatchBlock} (named : block.Named)
    (bytes : record.bytes = before ++ block.image ++ after)
    (inside : before.length + block.padded.size ≤ record.targetOffset) (small : block.padded.size < 65536) :
    record.matchAt before.length = .ok block.padded := by
  have announced : (UInt16.ofNat block.padded.size).toNat = block.padded.size := by
    rw [UInt16.toNat_ofNat', Nat.mod_eq_of_lt small]
  have word : record.bytes.word16At before.length = .ok (UInt16.ofNat block.padded.size) := by
    rw [bytes, MatchBlock.image, List.append_assoc (Bytes.ofNat 2 _), List.append_assoc (Bytes.ofNat 2 _),
      ← List.append_assoc before, List.append_assoc (before ++ _)]
    exact Bytes.word16At_middle before block.padded.size _ rfl
  have whole : record.bytes.slice before.length block.padded.size = .ok block.image := by
    rw [bytes]
    exact Bytes.slice_middle before block.image after rfl (MatchBlock.length_image named)
  have header : blockHeaderSize ≤ block.padded.size := Nat.le_add_right _ _
  obtain ⟨name, revision, data⟩ := MatchBlock.image_read named
  unfold matchAt
  simp only [word, ok_bind, announced]
  rw [if_neg (by omega)]
  simp only [whole, ok_bind, name, revision, data]
  rfl

theorem matchesFrom_images {blocks : List MatchBlock} (named : ∀ block ∈ blocks, block.Named)
    (bytes : record.bytes = before ++ blocks.flatMap MatchBlock.image ++ after)
    (ends : record.targetOffset = before.length + (blocks.flatMap MatchBlock.image).length)
    (short : record.targetOffset < 65536) :
    record.matchesFrom before.length = ⟨blocks.map MatchBlock.padded, none⟩ := by
  induction blocks generalizing before with
  | nil =>
    rw [matchesFrom, if_neg (by rw [ends]; exact Nat.lt_irrefl _)]
    rfl
  | cons block rest ih =>
    have first := named block (by simp)
    have length := MatchBlock.length_image first
    rw [List.flatMap_cons] at bytes ends
    rw [List.length_append, length] at ends
    have header : blockHeaderSize ≤ block.padded.size := Nat.le_add_right _ _
    have positive : 0 < blockHeaderSize := by decide
    have bytes : record.bytes = before ++ block.image ++ (rest.flatMap MatchBlock.image ++ after) := by
      simp only [bytes, List.append_assoc]
    have read := matchAt_image first bytes (by omega) (by omega)
    have behind : (before ++ block.image).length = before.length + block.padded.size := by
      rw [List.length_append, length]
    have remaining : record.bytes = before ++ block.image ++ rest.flatMap MatchBlock.image ++ after := by
      simp only [bytes, List.append_assoc]
    have others := ih (fun other member => named other (by simp [member])) remaining (by rw [behind]; omega)
    rw [behind] at others
    rw [matchesFrom, if_pos (by omega), read]
    simp only [others]
    rfl

end Record

end FilterWatch
