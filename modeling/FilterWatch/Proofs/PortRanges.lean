import FilterWatch.Match.PortRange
import FilterWatch.Proofs.ByteReading
import FilterWatch.Proofs.PortTexts

/-! The range of ports that a block of one of the two protocols asks of a side, and what its text tells of it. The ends
are told, and so is the inversion, but for a range of one port. -/

namespace FilterWatch.Match.PortRange
open Proofs.Outcomes

/-- Where the range of a side begins in a block's data. -/
def place : Side → Nat
  | .source => 0
  | .destination => 4

def invertedFlag : Side → UInt8
  | .source => sourceInvertedFlag
  | .destination => destinationInvertedFlag

/-- What the data of a block hold for a side: the two ends of its range, and in the flags whether it is inverted. -/
structure Holds (form : Form) (data : Bytes) (side : Side) (low high : UInt16) (inverted : Bool) : Prop where
  lower : data.slice? (place side) 2 = some (Bytes.ofWord16 low)
  upper : data.slice? (place side + 2) 2 = some (Bytes.ofWord16 high)
  inverted : ∃ flags, data[form.flagsAt]? = some flags ∧ inverted = (flags &&& invertedFlag side != 0)

/-- The text of what a block asks of one side. -/
def textOf (form : Form) (block : MatchBlock) (side : Side) : Except LayoutError (Option String) :=
  (test form block side).map (Option.map PortTest.text)

variable {form : Form} {block : MatchBlock} {side : Side} {low high : UInt16} {inverted : Bool}

theorem test_eq (long : form.flagsAt < block.data.length) : test form block side = do
    let low ← block.data.word16At (place side)
    let high ← block.data.word16At (place side + 2)
    let flags ← block.data.byteAt form.flagsAt
    return PortTest.ofRange? low high (flags &&& invertedFlag side != 0) := by
  unfold test
  rw [if_neg (Nat.not_le.mpr long)]
  cases side <;> rfl

theorem long_of_test {asked : Option PortTest} (read : test form block side = .ok asked) :
    form.flagsAt < block.data.length := by
  apply Nat.lt_of_not_le
  intro short
  unfold test at read
  rw [if_pos short] at read
  cases read

theorem test_of_holds (holds : Holds form block.data side low high inverted) :
    test form block side = .ok (PortTest.ofRange? low high inverted) := by
  obtain ⟨flags, there, rfl⟩ := holds.inverted
  have long : form.flagsAt < block.data.length := (List.getElem?_eq_some_iff.mp there).1
  rw [test_eq long, Bytes.word16At_iff_slice?.mpr holds.lower, ok_bind, Bytes.word16At_iff_slice?.mpr holds.upper,
    ok_bind, Bytes.byteAt_of_getElem? there]
  rfl

theorem textOf_of_holds (holds : Holds form block.data side low high inverted) :
    textOf form block side = .ok ((PortTest.ofRange? low high inverted).map PortTest.text) := by
  rw [textOf, test_of_holds holds]
  rfl

/-- Both ranges stand before the flags, so that data which reach up to the flags hold them. -/
theorem exists_holds {data : Bytes} (known : form ∈ [tcp, udp]) (long : form.flagsAt < data.length) (side : Side) :
    ∃ low high inverted, Holds form data side low high inverted := by
  have front : place side + 4 ≤ form.flagsAt := by
    rcases List.mem_pair.mp known with rfl | rfl <;> cases side <;> decide
  have first : place side + 2 ≤ data.length := by omega
  have second : place side + 2 + 2 ≤ data.length := by omega
  obtain ⟨low, lower⟩ := Bytes.word16At_within first
  obtain ⟨high, upper⟩ := Bytes.word16At_within second
  exact ⟨low, high, _, Bytes.word16At_iff_slice?.mp lower, Bytes.word16At_iff_slice?.mp upper, _,
    List.getElem?_eq_getElem long, rfl⟩

theorem test_eq_ok (known : form ∈ [tcp, udp]) {asked : Option PortTest} : test form block side = .ok asked ↔
    ∃ low high inverted, Holds form block.data side low high inverted ∧
      asked = PortTest.ofRange? low high inverted := by
  constructor
  · intro read
    obtain ⟨low, high, inverted, holds⟩ := exists_holds known (long_of_test read) side
    exact ⟨low, high, inverted, holds, Except.ok.inj (read.symm.trans (test_of_holds holds))⟩
  · rintro ⟨low, high, inverted, holds, rfl⟩
    exact test_of_holds holds

theorem ofRange?_eq_none : PortTest.ofRange? low high inverted = none ↔ low = 0 ∧ high = 65535 := by
  unfold PortTest.ofRange?
  split
  next all => exact iff_of_true rfl all
  next narrow => exact iff_of_false nofun narrow

theorem ofRange?_eq_some {asked : PortTest} : PortTest.ofRange? low high inverted = some asked ↔
    ¬ (low = 0 ∧ high = 65535) ∧ asked = .range low high inverted := by
  unfold PortTest.ofRange?
  split
  next all => exact iff_of_false nofun fun narrow => narrow.1 all
  next narrow =>
    constructor
    · intro same
      exact ⟨narrow, (Option.some.inj same).symm⟩
    · rintro ⟨-, rfl⟩
      rfl

/-- Two blocks of one protocol that are long enough have each a range with its ends and its inversion, and no text
exactly if it is the range of all ports. A range of one port is told as the port and a blank, inverted or not, and a
range of several ports by its ends, in brackets behind the sign of the inversion if it is inverted. A text is that of
both exactly if the ends are the same and, unless both are one port, the inversion is. -/
theorem text_of_ranges (form : Form) (known : form ∈ [tcp, udp]) (first second : MatchBlock)
    (long : form.flagsAt < first.data.length) (enough : form.flagsAt < second.data.length) (side : Side) :
    ∃ low high inverted lower upper negated told other,
      Holds form first.data side low high inverted ∧ Holds form second.data side lower upper negated ∧
      textOf form first side = .ok told ∧ textOf form second side = .ok other ∧
      (told = none ↔ low = 0 ∧ high = 65535) ∧ (low = high → told = some (low.toNat.repr ++ " ")) ∧
      (low ≠ high → ∀ text, told = some text → text = enclosed inverted (low.toNat.repr ++ "-" ++ high.toNat.repr)) ∧
      ∀ text, told = some text →
        (other = some text ↔ lower = low ∧ upper = high ∧ (low = high ∨ negated = inverted)) := by
  obtain ⟨low, high, inverted, holds⟩ := exists_holds known long side
  obtain ⟨lower, upper, negated, others⟩ := exists_holds known enough side
  refine ⟨low, high, inverted, lower, upper, negated, _, _, holds, others, textOf_of_holds holds,
    textOf_of_holds others, ?_, ?_, ?_, ?_⟩
  · rw [Option.map_eq_none_iff, ofRange?_eq_none]
  · rintro rfl
    have narrow : ¬ (low = 0 ∧ low = 65535) := by
      rintro ⟨rfl, all⟩
      exact absurd all (by decide)
    rw [ofRange?_eq_some.mpr ⟨narrow, rfl⟩, Option.map_some, PortTest.text_one]
  · intro several text same
    obtain ⟨asked, narrow, rfl⟩ := Option.map_eq_some_iff.mp same
    obtain ⟨-, rfl⟩ := ofRange?_eq_some.mp narrow
    exact PortTest.text_several several inverted
  · intro text same
    obtain ⟨asked, narrow, rfl⟩ := Option.map_eq_some_iff.mp same
    obtain ⟨restricted, rfl⟩ := ofRange?_eq_some.mp narrow
    constructor
    · intro alike
      obtain ⟨also, found, shown⟩ := Option.map_eq_some_iff.mp alike
      obtain ⟨-, rfl⟩ := ofRange?_eq_some.mp found
      obtain ⟨rfl, rfl, one | same⟩ := PortTest.range_text_eq_iff.mp shown
      · exact ⟨rfl, rfl, .inl one⟩
      · exact ⟨rfl, rfl, .inr same⟩
    · rintro ⟨rfl, rfl, same⟩
      have alike : (PortTest.range lower upper negated).text = (PortTest.range lower upper inverted).text :=
        PortTest.range_text_eq_iff.mpr ⟨rfl, rfl, same⟩
      rw [ofRange?_eq_some.mpr ⟨restricted, rfl⟩, Option.map_some, alike]

/-- A block for the ports 6 to 10 as destinations, or for all others. -/
def severalPorts (inverted : Bool) : MatchBlock :=
  ⟨tcp.name, 0, [0, 0, 255, 255, 6, 0, 10, 0, 0, 0, 0, if inverted then 2 else 0]⟩

theorem text_of_ranges_several : tcp ∈ [tcp, udp] ∧ tcp.flagsAt < (severalPorts true).data.length ∧
    tcp.flagsAt < (severalPorts false).data.length ∧
    ∃ text, textOf tcp (severalPorts true) .destination = .ok (some text) ∧
      textOf tcp (severalPorts false) .destination ≠ .ok (some text) := by
  obtain ⟨low, high, inverted, lower, upper, negated, told, other, holds, others, read, reread, silent, -, -, alike⟩ :=
    text_of_ranges tcp (by decide) (severalPorts true) (severalPorts false) (by decide) (by decide) .destination
  have several : low ≠ high := by
    rintro rfl
    exact absurd (holds.lower.trans holds.upper.symm) (by decide)
  have changed : negated ≠ inverted := by
    obtain ⟨excluding, first, rfl⟩ := holds.inverted
    obtain ⟨admitting, second, rfl⟩ := others.inverted
    rw [← show 2 = excluding from Option.some.inj first, ← show 0 = admitting from Option.some.inj second]
    decide
  cases told with
  | none =>
    obtain ⟨rfl, -⟩ := silent.mp rfl
    exact absurd holds.lower (by decide)
  | some text =>
    refine ⟨by decide, by decide, by decide, text, read, fun same => ?_⟩
    obtain ⟨-, -, one | uninverted⟩ := (alike text rfl).mp (Except.ok.inj (reread.symm.trans same))
    · exact several one
    · exact changed uninverted

/-- A block for the one port 22 as destination, or for all others. -/
def onePort (inverted : Bool) : MatchBlock :=
  ⟨tcp.name, 0, [0, 0, 255, 255, 22, 0, 22, 0, 0, 0, 0, if inverted then 2 else 0]⟩

/-- A block that excludes one port has the text of the block that admits it. -/
theorem one_port_uninverted : tcp.flagsAt < (onePort true).data.length ∧ tcp.flagsAt < (onePort false).data.length ∧
    Holds tcp (onePort true).data .destination 22 22 true ∧ Holds tcp (onePort false).data .destination 22 22 false ∧
    textOf tcp (onePort true) .destination = .ok (some "22 ") ∧
    textOf tcp (onePort false) .destination = .ok (some "22 ") :=
  ⟨by decide, by decide, ⟨rfl, rfl, 2, rfl, rfl⟩, ⟨rfl, rfl, 0, rfl, rfl⟩, by decide +kernel, by decide +kernel⟩

end FilterWatch.Match.PortRange
