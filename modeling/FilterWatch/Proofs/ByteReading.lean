import FilterWatch.Bytes.Read
import FilterWatch.Proofs.Outcomes

/-! What is read from a region that has been put together from known parts, and how reads of a
part relate to reads of the whole. -/

namespace FilterWatch.Bytes
open Proofs.Outcomes

theorem length_ofNat (width number : Nat) : (ofNat width number).length = width := by
  induction width generalizing number with
  | zero => rfl
  | succ width ih => simp only [ofNat, List.length_cons, ih]

theorem length_ofWord16 (word : UInt16) : (ofWord16 word).length = 2 := length_ofNat 2 word.toNat

theorem length_ofWord32 (word : UInt32) : (ofWord32 word).length = 4 := length_ofNat 4 word.toNat

/-- Items of one width, laid out side by side. -/
theorem length_flatMap_of_width {layout : α → Bytes} {width : Nat} (each : ∀ item, (layout item).length = width)
    (items : List α) : (items.flatMap layout).length = width * items.length := by
  induction items with
  | nil => rfl
  | cons item rest ih => rw [List.flatMap_cons, List.length_append, each, ih, List.length_cons, Nat.mul_succ, Nat.add_comm]

theorem value_ofNat (width number : Nat) : value (ofNat width number) = number % Nat.pow 256 width := by
  induction width generalizing number with
  | zero => simp [ofNat, value, Nat.mod_one]
  | succ width ih =>
    simp only [ofNat, value, ih, UInt8.toNat_ofNat']
    exact (Nat.mod_mul (x := number) (a := 256) (b := Nat.pow 256 width)).symm.trans
      (congrArg (number % ·) (Nat.mul_comm 256 (Nat.pow 256 width)))

theorem value_lt (bytes : Bytes) : value bytes < Nat.pow 256 bytes.length := by
  induction bytes with
  | nil => exact Nat.one_pos
  | cons low rest ih =>
    have byte := low.toNat_lt
    have wider : Nat.pow 256 (rest.length + 1) = Nat.pow 256 rest.length * 256 := rfl
    rw [value, List.length_cons, wider]
    omega

theorem ofNat_value (bytes : Bytes) : ofNat bytes.length (value bytes) = bytes := by
  induction bytes with
  | nil => rfl
  | cons low rest ih =>
    have byte := low.toNat_lt
    have first : UInt8.ofNat (low.toNat + 256 * value rest) = low := by
      apply UInt8.toNat_inj.mp
      rw [UInt8.toNat_ofNat']
      omega
    have others : (low.toNat + 256 * value rest) / 256 = value rest := by omega
    rw [value, List.length_cons, ofNat, first, others, ih]

/-- A bit of a number stands in the digit, and at the place there, that its own place gives. -/
theorem testBit_value (bytes : Bytes) (place : Nat) :
    (value bytes).testBit place = (bytes.getD (place / 8) 0).toNat.testBit (place % 8) := by
  induction bytes generalizing place with
  | nil => simp [value]
  | cons low rest ih =>
    have digits : value (low :: rest) = 2 ^ 8 * value rest + low.toNat := Nat.add_comm _ _
    rw [digits, Nat.testBit_two_pow_mul_add _ low.toNat_lt]
    split
    next inside => rw [Nat.div_eq_of_lt inside, Nat.mod_eq_of_lt inside, List.getD_cons_zero]
    next behind =>
      have digit : place / 8 = (place - 8) / 8 + 1 := by omega
      have rank : place % 8 = (place - 8) % 8 := by omega
      rw [ih, digit, rank, List.getD_cons_succ]

theorem length_zeros (count : Nat) : (zeros count).length = count := List.length_replicate

theorem zeros_add (first second : Nat) : zeros (first + second) = zeros first ++ zeros second :=
  List.replicate_append_replicate.symm

theorem length_padTo {width : Nat} {data : Bytes} (fits : data.length ≤ width) :
    (data.padTo width).length = width := by
  simp only [padTo, List.length_append, length_zeros]
  omega

theorem slice_eq_ok {region bytes : Bytes} {offset length : Nat} :
    region.slice offset length = .ok bytes ↔
      offset + length ≤ region.length ∧ (region.drop offset).take length = bytes := by
  unfold slice slice?
  by_cases fits : offset + length ≤ region.length <;> simp [fits]

theorem slice_iff_slice? {region bytes : Bytes} {offset length : Nat} :
    region.slice offset length = .ok bytes ↔ region.slice? offset length = some bytes := by
  unfold slice
  cases region.slice? offset length <;> simp

theorem length_of_slice {region bytes : Bytes} {offset length : Nat}
    (read : region.slice offset length = .ok bytes) : bytes.length = length := by
  obtain ⟨fits, rfl⟩ := slice_eq_ok.mp read
  simp only [List.length_take, List.length_drop]
  omega

theorem slice_middle (before middle after : Bytes) {offset length : Nat}
    (starts : before.length = offset) (ends : middle.length = length) :
    (before ++ middle ++ after).slice offset length = .ok middle := by
  subst starts ends
  refine slice_eq_ok.mpr ⟨by simp, ?_⟩
  rw [List.append_assoc, List.drop_left, List.take_left]

theorem write?_middle (before old data after : Bytes) {offset : Nat} (starts : before.length = offset)
    (ends : old.length = data.length) :
    (before ++ old ++ after).write? offset data = some (before ++ data ++ after) := by
  subst starts
  unfold write?
  rw [if_pos (by simp only [List.length_append]; omega), List.append_assoc before old after, List.take_left,
    ← ends, ← List.drop_drop, List.drop_left, List.drop_left]

theorem slice_slice {region part bytes : Bytes} {offset length inner count : Nat}
    (outer : region.slice offset length = .ok part) (inside : inner + count ≤ length) :
    part.slice inner count = .ok bytes ↔ region.slice (offset + inner) count = .ok bytes := by
  have whole := length_of_slice outer
  obtain ⟨fits, rfl⟩ := slice_eq_ok.mp outer
  have enough : offset + inner + count ≤ region.length := by omega
  have same : (((region.drop offset).take length).drop inner).take count =
      (region.drop (offset + inner)).take count := by
    rw [List.drop_take, List.drop_drop, List.take_take, Nat.min_eq_left (by omega)]
  simp only [slice_eq_ok, whole, inside, enough, same, true_and]

theorem word16At_eq_ok {region : Bytes} {offset : Nat} {word : UInt16} :
    region.word16At offset = .ok word ↔
      ∃ bytes, region.slice offset 2 = .ok bytes ∧ UInt16.ofNat bytes.value = word := map_eq_ok

theorem byteAt_eq_ok {region : Bytes} {offset : Nat} {byte : UInt8} :
    region.byteAt offset = .ok byte ↔
      ∃ bytes, region.slice offset 1 = .ok bytes ∧ UInt8.ofNat bytes.value = byte := map_eq_ok

theorem word32At_eq_ok {region : Bytes} {offset : Nat} {word : UInt32} :
    region.word32At offset = .ok word ↔
      ∃ bytes, region.slice offset 4 = .ok bytes ∧ UInt32.ofNat bytes.value = word := map_eq_ok

theorem byteAt_of_getElem? {region : Bytes} {offset : Nat} {byte : UInt8} (there : region[offset]? = some byte) :
    region.byteAt offset = .ok byte := by
  obtain ⟨inside, rfl⟩ := List.getElem?_eq_some_iff.mp there
  refine byteAt_eq_ok.mpr ⟨[region[offset]], slice_eq_ok.mpr ⟨inside, ?_⟩, by simp [value]⟩
  rw [List.drop_eq_getElem_cons inside, List.take_succ_cons, List.take_zero]

theorem word16At_iff_slice? {region : Bytes} {offset : Nat} {word : UInt16} :
    region.word16At offset = .ok word ↔ region.slice? offset 2 = some (ofWord16 word) := by
  rw [word16At_eq_ok, ← slice_iff_slice?]
  constructor
  · rintro ⟨bytes, read, rfl⟩
    have two := length_of_slice read
    have small : value bytes < 2 ^ 16 := by simpa [two] using value_lt bytes
    have same : ofWord16 (UInt16.ofNat (value bytes)) = bytes := by
      rw [ofWord16, UInt16.toNat_ofNat', Nat.mod_eq_of_lt small, ← two, ofNat_value]
    rw [same]
    exact read
  · intro read
    refine ⟨_, read, ?_⟩
    apply UInt16.toNat_inj.mp
    rw [ofWord16, value_ofNat, UInt16.toNat_ofNat']
    exact (Nat.mod_mod word.toNat _).trans (Nat.mod_eq_of_lt word.toNat_lt)

theorem byteAt_within {region : Bytes} {offset : Nat} (inside : offset < region.length) :
    ∃ byte, region.byteAt offset = .ok byte :=
  ⟨_, byteAt_eq_ok.mpr ⟨_, slice_eq_ok.mpr ⟨inside, rfl⟩, rfl⟩⟩

theorem word16At_within {region : Bytes} {offset : Nat} (inside : offset + 2 ≤ region.length) :
    ∃ word, region.word16At offset = .ok word :=
  ⟨_, word16At_eq_ok.mpr ⟨_, slice_eq_ok.mpr ⟨inside, rfl⟩, rfl⟩⟩

theorem byteAt_getD {region : Bytes} {offset : Nat} (inside : offset < region.length) :
    region.byteAt offset = .ok (region.getD offset 0) :=
  byteAt_of_getElem? (by simp [inside])

theorem word16At_getD {region : Bytes} {offset : Nat} (inside : offset + 2 ≤ region.length) : region.word16At offset =
    .ok (UInt16.ofNat ((region.getD offset 0).toNat + 256 * (region.getD (offset + 1) 0).toNat)) := by
  have first : offset < region.length := by omega
  have second : offset + 1 < region.length := inside
  have pair : (region.drop offset).take 2 = [region[offset], region[offset + 1]] := by
    rw [List.drop_eq_getElem_cons first, List.drop_eq_getElem_cons second, List.take_succ_cons, List.take_succ_cons,
      List.take_zero]
  refine word16At_eq_ok.mpr ⟨_, slice_eq_ok.mpr ⟨inside, pair⟩, ?_⟩
  simp [value, first, second]

theorem word16At_slice {region part : Bytes} {offset length inner : Nat} {word : UInt16}
    (outer : region.slice offset length = .ok part) (inside : inner + 2 ≤ length) :
    part.word16At inner = .ok word ↔ region.word16At (offset + inner) = .ok word := by
  simp only [word16At_eq_ok, slice_slice outer inside]

theorem word16At_middle (before : Bytes) (number : Nat) (after : Bytes) {offset : Nat}
    (starts : before.length = offset) :
    (before ++ ofNat 2 number ++ after).word16At offset = .ok (UInt16.ofNat number) := by
  refine word16At_eq_ok.mpr ⟨_, slice_middle _ _ _ starts (length_ofNat 2 number), ?_⟩
  apply UInt16.toNat_inj.mp
  rw [value_ofNat, UInt16.toNat_ofNat', UInt16.toNat_ofNat']
  exact Nat.mod_mod number _

theorem word32At_middle (before : Bytes) (number : Nat) (after : Bytes) {offset : Nat}
    (starts : before.length = offset) :
    (before ++ ofNat 4 number ++ after).word32At offset = .ok (UInt32.ofNat number) := by
  refine word32At_eq_ok.mpr ⟨_, slice_middle _ _ _ starts (length_ofNat 4 number), ?_⟩
  apply UInt32.toNat_inj.mp
  rw [value_ofNat, UInt32.toNat_ofNat', UInt32.toNat_ofNat']
  exact Nat.mod_mod number _

theorem byteAt_middle (before : Bytes) (byte : UInt8) (after : Bytes) {offset : Nat}
    (starts : before.length = offset) :
    (before ++ [byte] ++ after).byteAt offset = .ok byte := by
  refine byteAt_eq_ok.mpr ⟨_, slice_middle _ _ _ starts rfl, ?_⟩
  simp [value]

theorem toText?_ofText (text : String) : toText? (ofText text) = some text := by
  have same : (⟨(ofText text).toArray⟩ : ByteArray) = text.toByteArray := by simp [ofText]
  unfold toText?
  rw [same]
  simp [String.fromUTF8?, text.isValidUTF8, String.fromUTF8]

theorem nameAt_padded (before : Bytes) (name : String) (after : Bytes) {offset width : Nat}
    (starts : before.length = offset) (fits : (ofText name).length < width) (plain : 0 ∉ ofText name) :
    (before ++ (ofText name).padTo width ++ after).nameAt offset width = .ok name := by
  have field := slice_middle _ _ after starts (length_padTo (Nat.le_of_lt fits))
  obtain ⟨count, positive⟩ := Nat.exists_eq_add_of_lt fits
  have padded : (ofText name).padTo width = ofText name ++ 0 :: zeros count := by
    have rest : width - (ofText name).length = count + 1 := by omega
    simp only [padTo, rest, zeros, List.replicate_succ]
  have ended : ((ofText name).padTo width).contains 0 = true := by simp [padded]
  have taken : ((ofText name).padTo width).takeWhile (· ≠ 0) = ofText name := by
    rw [padded, List.takeWhile_append_of_pos]
    · simp
    · intro byte member
      simpa using fun zero : byte = 0 => plain (zero ▸ member)
  unfold nameAt
  rw [field]
  simp only [bind, Except.bind, ended, ite_true, taken, toText?_ofText]
  rfl

end FilterWatch.Bytes
