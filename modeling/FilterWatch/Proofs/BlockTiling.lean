import FilterWatch.Proofs.ByteReading
import FilterWatch.Record

/-! The match blocks of a record and the bytes that they take. The walk steps from block to block by sizes that it reads
from the record itself. It ends all the same, since each is the size of a header at least, and it ends without a fault
exactly if blocks fill all the room before the target. -/

namespace FilterWatch
open Proofs.Outcomes

namespace Bytes

variable {region part : Bytes} {offset length inner : Nat} (outer : region.slice offset length = .ok part)
include outer

theorem byteAt_slice {byte : UInt8} (inside : inner + 1 ≤ length) :
    part.byteAt inner = .ok byte ↔ region.byteAt (offset + inner) = .ok byte := by
  simp only [byteAt_eq_ok, slice_slice outer inside]

theorem nameAt_slice {width : Nat} {name : String} (inside : inner + width ≤ length) :
    part.nameAt inner width = .ok name ↔ region.nameAt (offset + inner) width = .ok name := by
  simp only [nameAt, bind_eq_ok, slice_slice outer inside]

end Bytes

/-- A walk over the match blocks of a record that is asked for one block after the other. -/
structure BlockWalk where
  record : Record
  /-- Where the next block begins. -/
  position : Nat

namespace BlockWalk

def start (record : Record) : BlockWalk := ⟨record, Record.headerSize⟩

/-- What a call yields, and the walk that it leaves. A fault leads to the end, where nothing more is yielded. -/
def next (walk : BlockWalk) : Option (Except LayoutError MatchBlock) × BlockWalk :=
  if walk.position < walk.record.targetOffset then
    match walk.record.matchAt walk.position with
    | .ok block => (some (.ok block), ⟨walk.record, walk.position + block.size⟩)
    | .error fault => (some (.error fault), ⟨walk.record, walk.record.targetOffset⟩)
  else (none, walk)

/-- What a call yields after so many other calls. -/
def yielded (walk : BlockWalk) : Nat → Option (Except LayoutError MatchBlock)
  | 0 => walk.next.1
  | calls + 1 => walk.next.2.yielded calls

end BlockWalk

/-- The well-formed blocks, and behind them the fault that ended the walk early. -/
def MatchWalk.items (walk : MatchWalk) : List (Except LayoutError MatchBlock) :=
  walk.blocks.map .ok ++ walk.fault.toList.map .error

namespace BlockWalk

variable {walk : BlockWalk}

theorem yielded_of_ended (ended : walk.record.targetOffset ≤ walk.position) (calls : Nat) :
    walk.yielded calls = none := by
  have stays : walk.next = (none, walk) := if_neg (Nat.not_lt.mpr ended)
  induction calls with
  | zero => rw [yielded, stays]
  | succ calls ih => rw [yielded, stays, ih]

theorem yielded_eq (record : Record) (position calls : Nat) :
    (BlockWalk.mk record position).yielded calls = (record.matchesFrom position).items[calls]? := by
  fun_induction Record.matchesFrom record position generalizing calls with
  | case1 position inside fault failed =>
    have step : (BlockWalk.mk record position).next = (some (.error fault), ⟨record, record.targetOffset⟩) := by
      simp only [next, if_pos inside, failed]
    cases calls with
    | zero => rw [yielded, step]; rfl
    | succ calls => rw [yielded, step, yielded_of_ended (Nat.le_refl _)]; rfl
  | case2 position inside block read rest ih =>
    have step : (BlockWalk.mk record position).next = (some (.ok block), ⟨record, position + block.size⟩) := by
      simp only [next, if_pos inside, read]
    cases calls with
    | zero => rw [yielded, step]; rfl
    | succ calls => rw [yielded, step, ih]; rfl
  | case3 position outside =>
    rw [yielded_of_ended (Nat.le_of_not_lt outside)]
    rfl

end BlockWalk

namespace Record

/-- A match block with this header begins at a place of a record. The header tells its size, its name and its revision,
the data follow, and the block ends where the target begins or before. -/
structure BlockAt (record : Record) (place : Nat) (header : Bytes) (block : MatchBlock) : Prop where
  front : record.bytes.slice place blockHeaderSize = .ok header
  announced : header.word16At 0 = .ok (UInt16.ofNat block.size)
  short : block.size < 65536
  named : header.nameAt 2 extensionNameWidth = .ok block.name
  revised : header.byteAt 31 = .ok block.revision
  filled : record.bytes.slice (place + blockHeaderSize) block.data.length = .ok block.data
  within : place + block.size ≤ record.targetOffset

/-- Match blocks without a gap between them, each with its header as it stands in the record, from one place of the
record to another. -/
inductive Tiling (record : Record) : (place : Nat) → List (Bytes × MatchBlock) → (stop : Nat) → Prop
  | done {place : Nat} : Tiling record place [] place
  | block {place stop : Nat} {header : Bytes} {block : MatchBlock} {rest : List (Bytes × MatchBlock)}
      (first : record.BlockAt place header block) (others : Tiling record (place + block.size) rest stop) :
      Tiling record place ((header, block) :: rest) stop

/-- The bytes of blocks with these headers. -/
def tileBytes (tiles : List (Bytes × MatchBlock)) : Bytes := tiles.flatMap fun tile => tile.1 ++ tile.2.data

variable {record : Record} {place stop : Nat} {header : Bytes} {block : MatchBlock}

private theorem blockAt_of_matchAt (read : record.matchAt place = .ok block) :
    ∃ header, record.BlockAt place header block := by
  unfold matchAt at read
  obtain ⟨size, declared, read⟩ := bind_eq_ok.mp read
  dsimp only at read
  split at read
  · cases read
  next fits =>
    rw [not_or, Nat.not_lt, Nat.not_lt] at fits
    obtain ⟨whole, taken, read⟩ := bind_eq_ok.mp read
    obtain ⟨name, named, read⟩ := bind_eq_ok.mp read
    obtain ⟨revision, revised, read⟩ := bind_eq_ok.mp read
    obtain ⟨data, filled, read⟩ := bind_eq_ok.mp read
    cases read
    have length := Bytes.length_of_slice filled
    have same : MatchBlock.size { name, revision, data } = size.toNat := by
      rw [MatchBlock.size, length]
      omega
    have room := (Bytes.slice_eq_ok.mp taken).1
    have front : record.bytes.slice place blockHeaderSize = .ok (whole.take blockHeaderSize) := by
      rw [← Nat.add_zero place, ← Bytes.slice_slice taken (by omega)]
      refine Bytes.slice_eq_ok.mpr ⟨?_, rfl⟩
      rw [Bytes.length_of_slice taken, Nat.zero_add]
      exact fits.1
    refine ⟨whole.take blockHeaderSize, front, ?_, ?_, ?_, ?_, ?_, ?_⟩
    · rw [same, UInt16.ofNat_toNat, Bytes.word16At_slice front (by decide)]
      exact declared
    · rw [same]
      exact size.toNat_lt
    · rw [Bytes.nameAt_slice front (by decide), ← Bytes.nameAt_slice taken (Nat.le_trans (by decide) fits.1)]
      exact named
    · rw [Bytes.byteAt_slice front (by decide), ← Bytes.byteAt_slice taken (Nat.le_trans (by decide) fits.1)]
      exact revised
    · rw [length, ← Bytes.slice_slice taken (by omega)]
      exact filled
    · rw [same]
      exact fits.2

private theorem BlockAt.matchAt (here : record.BlockAt place header block) : record.matchAt place = .ok block := by
  have same : (UInt16.ofNat block.size).toNat = block.size := by
    rw [UInt16.toNat_ofNat', Nat.mod_eq_of_lt here.short]
  have least : blockHeaderSize ≤ block.size := Nat.le_add_right _ _
  have rest : block.size - blockHeaderSize = block.data.length := Nat.add_sub_cancel_left _ _
  have room := here.within
  have size := here.announced
  have name := here.named
  have revision := here.revised
  have data := here.filled
  have whole : record.bytes.slice place block.size = .ok ((record.bytes.drop place).take block.size) :=
    Bytes.slice_eq_ok.mpr ⟨Nat.le_trans room record.target_le, rfl⟩
  rw [Bytes.word16At_slice here.front (by decide), Nat.add_zero] at size
  rw [Bytes.nameAt_slice here.front (by decide), ← Bytes.nameAt_slice whole (Nat.le_trans (by decide) least)] at name
  rw [Bytes.byteAt_slice here.front (by decide),
    ← Bytes.byteAt_slice whole (Nat.le_trans (by decide) least)] at revision
  rw [← rest, ← Bytes.slice_slice whole (by omega)] at data
  unfold Record.matchAt
  rw [size, ok_bind, same, if_neg (by omega), whole, ok_bind, name, ok_bind, revision, ok_bind, data]
  rfl

theorem matchAt_eq_ok : record.matchAt place = .ok block ↔ ∃ header, record.BlockAt place header block :=
  ⟨blockAt_of_matchAt, fun ⟨_, here⟩ => here.matchAt⟩

theorem BlockAt.bytes (here : record.BlockAt place header block) :
    (record.bytes.drop place).take block.size = header ++ block.data := by
  obtain ⟨_, front⟩ := Bytes.slice_eq_ok.mp here.front
  obtain ⟨_, back⟩ := Bytes.slice_eq_ok.mp here.filled
  rw [MatchBlock.size, List.take_add, List.drop_drop, front, back]

variable {tiles : List (Bytes × MatchBlock)}

theorem Tiling.covers (tiling : record.Tiling place tiles stop) :
    stop = place + (tileBytes tiles).length ∧
      (record.bytes.drop place).take (tileBytes tiles).length = tileBytes tiles := by
  induction tiling with
  | done => exact ⟨rfl, List.take_zero⟩
  | @block place stop header block rest first others ih =>
    have own := first.bytes
    have length : (header ++ block.data).length = block.size := by
      rw [List.length_append, Bytes.length_of_slice first.front, MatchBlock.size]
    have split : tileBytes ((header, block) :: rest) = (header ++ block.data) ++ tileBytes rest := List.flatMap_cons
    obtain ⟨ends, same⟩ := ih
    rw [split, List.length_append, length]
    refine ⟨by rw [ends, Nat.add_assoc], ?_⟩
    rw [List.take_add, own, List.drop_drop, same]

theorem Tiling.length_le (tiling : record.Tiling place tiles stop) : place + 32 * tiles.length ≤ stop := by
  induction tiling with
  | done => exact Nat.le_refl _
  | @block place stop header block rest first others ih =>
    have least : 32 ≤ block.size := Nat.le_add_right _ _
    rw [List.length_cons]
    omega

/-- Blocks that fill the room before the target are those of the walk, and it finds no fault. -/
theorem Tiling.matchesFrom (tiling : record.Tiling place tiles stop) (full : stop = record.targetOffset) :
    record.matchesFrom place = ⟨tiles.map Prod.snd, none⟩ := by
  induction tiling with
  | done =>
    rw [Record.matchesFrom, if_neg (Nat.not_lt.mpr (Nat.le_of_eq full.symm))]
    rfl
  | @block place stop header block rest first others ih =>
    have least : 32 ≤ block.size := Nat.le_add_right _ _
    have inside : place < record.targetOffset := by
      have within := first.within
      omega
    rw [Record.matchesFrom, if_pos inside, first.matchAt]
    simp only [ih full]
    rfl

theorem exists_tiling (before : place ≤ record.targetOffset) :
    ∃ tiles stop, record.Tiling place tiles stop ∧ tiles.map Prod.snd = (record.matchesFrom place).blocks ∧
      ((record.matchesFrom place).fault = none ∧ stop = record.targetOffset ∨
        ∃ fault, (record.matchesFrom place).fault = some fault ∧ stop < record.targetOffset ∧
          record.matchAt stop = .error fault) := by
  fun_induction Record.matchesFrom record place with
  | case1 place inside fault failed => exact ⟨[], place, .done, rfl, .inr ⟨fault, rfl, inside, failed⟩⟩
  | case2 place inside block read rest ih =>
    obtain ⟨header, here⟩ := matchAt_eq_ok.mp read
    obtain ⟨tiles, stop, others, blocks, ends⟩ := ih here.within
    exact ⟨(header, block) :: tiles, stop, .block here others, congrArg (block :: ·) blocks, ends⟩
  | case3 place outside =>
    exact ⟨[], place, .done, rfl, .inl ⟨rfl, Nat.le_antisymm before (Nat.le_of_not_lt outside)⟩⟩

/-- The walk over the match blocks of a record. Call by call it yields the blocks, then the fault if there is one, and
nothing ever after. The blocks lie one behind the other from the end of the record's header on. Without a fault they
reach up to the target, and their bytes are all the bytes there; a fault is told of the place where they stop. There is
one exactly if no blocks fill that room. -/
theorem blocks_tile (record : Record) :
    (∀ calls, (BlockWalk.start record).yielded calls = record.matchWalk.items[calls]?) ∧
    (∃ tiles stop, record.Tiling 112 tiles stop ∧ tiles.map Prod.snd = record.matchWalk.blocks ∧
      (record.matchWalk.fault = none ∧ stop = record.targetOffset ∧
          tileBytes tiles = (record.bytes.drop 112).take (record.targetOffset - 112) ∨
        ∃ fault, record.matchWalk.fault = some fault ∧ stop < record.targetOffset ∧
          record.matchAt stop = .error fault)) ∧
    (record.matchWalk.fault ≠ none ↔ ¬ ∃ tiles, record.Tiling 112 tiles record.targetOffset) ∧
    112 + 32 * record.matchWalk.blocks.length ≤ record.targetOffset := by
  have before : 112 ≤ record.targetOffset := record.header_le
  obtain ⟨tiles, stop, tiling, blocks, ends⟩ := exists_tiling before
  have short := tiling.length_le
  have number : record.matchWalk.blocks.length = tiles.length := by
    rw [matchWalk, headerSize, ← blocks, List.length_map]
  refine ⟨BlockWalk.yielded_eq record 112, ⟨tiles, stop, tiling, blocks, ?_⟩, ?_, ?_⟩
  · refine ends.imp_left fun ⟨whole, full⟩ => ⟨whole, full, ?_⟩
    obtain ⟨extent, same⟩ := tiling.covers
    have room : record.targetOffset - 112 = (tileBytes tiles).length := by omega
    rw [room, same]
  · apply not_congr
    constructor
    · intro whole
      rcases ends with ⟨-, rfl⟩ | ⟨fault, faulty, -⟩
      · exact ⟨tiles, tiling⟩
      · cases whole.symm.trans faulty
    · rintro ⟨others, filled⟩
      rw [matchWalk, headerSize, filled.matchesFrom rfl]
  · rw [number]
    rcases ends with ⟨-, rfl⟩ | ⟨fault, -, earlier, -⟩
    · exact short
    · omega

end Record

end FilterWatch
