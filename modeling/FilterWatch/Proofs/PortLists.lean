import FilterWatch.Proofs.Attempts
import FilterWatch.Proofs.ByteReading
import FilterWatch.Proofs.PortColumns
import FilterWatch.Proofs.PortTexts

/-! Lists of ports, from the bytes of a block to their text. The marked ports are read from left to right, a marked port
together with the next one; the reading fails only where a mark stands on a port that is the last one left. -/

namespace FilterWatch
open Proofs.Outcomes

/-- The ports that an item is made of. -/
def PortItem.ports : PortItem → List UInt16
  | single port => [port]
  | span low high => [low, high]

namespace Match.PortList

/-- The items that marked ports are read as. A mark joins its port with the next one, whose own mark does not count. -/
inductive Reads : List (UInt16 × Bool) → List PortItem → Prop
  | done : Reads [] []
  | single {port : UInt16} {rest : List (UInt16 × Bool)} {items : List PortItem} (behind : Reads rest items) :
      Reads ((port, false) :: rest) (.single port :: items)
  | span {low high : UInt16} {mark : Bool} {rest : List (UInt16 × Bool)} {items : List PortItem}
      (behind : Reads rest items) : Reads ((low, true) :: (high, mark) :: rest) (.span low high :: items)

/-- The reading comes to the last port, and the port is marked. -/
def Dangles (ports : List (UInt16 × Bool)) : Prop :=
  ∃ before items port, Reads before items ∧ ports = before ++ [(port, true)]

variable {ports rest : List (UInt16 × Bool)} {items : List PortItem} {index : Nat}

theorem join_of_reads (reads : Reads ports items) : join index ports = .ok items := by
  induction reads generalizing index with
  | done => rfl
  | single behind ih =>
    rw [join, ih]
    rfl
  | span behind ih =>
    rw [join, ih]
    rfl

theorem join_of_dangles (dangles : Dangles ports) :
    join index ports = .error (.danglingPortRange (index + (ports.length - 1))) := by
  obtain ⟨before, items, port, reads, rfl⟩ := dangles
  rw [List.length_append, List.length_singleton, Nat.add_sub_cancel]
  induction reads generalizing index with
  | done => rfl
  | @single first rest items behind ih =>
    have last : index + 1 + rest.length = index + (rest.length + 1) := by omega
    rw [List.cons_append, join, ih, last]
    rfl
  | @span low high mark rest items behind ih =>
    have last : index + 2 + rest.length = index + (rest.length + 1 + 1) := by omega
    rw [List.cons_append, List.cons_append, join, ih, last]
    rfl

theorem reads_or_dangles (ports : List (UInt16 × Bool)) : (∃ items, Reads ports items) ∨ Dangles ports := by
  fun_induction join 0 ports with
  | case1 => exact .inl ⟨[], .done⟩
  | case2 _ port => exact .inr ⟨[], [], port, .done, rfl⟩
  | case3 _ low high mark rest ih =>
    rcases ih with ⟨items, reads⟩ | ⟨before, items, port, reads, rfl⟩
    · exact .inl ⟨_, reads.span⟩
    · exact .inr ⟨_, _, port, reads.span, rfl⟩
  | case4 _ port rest ih =>
    rcases ih with ⟨items, reads⟩ | ⟨before, items, last, reads, rfl⟩
    · exact .inl ⟨_, reads.single⟩
    · exact .inr ⟨_, _, last, reads.single, rfl⟩

theorem join_eq_ok : join index ports = .ok items ↔ Reads ports items := by
  constructor
  · intro joined
    rcases reads_or_dangles ports with ⟨found, reads⟩ | dangles
    · rw [join_of_reads reads] at joined
      exact Except.ok.inj joined ▸ reads
    · rw [join_of_dangles dangles] at joined
      cases joined
  · exact join_of_reads

/-- The ports of a list with their marks; those of a plain list have none. -/
def entries : PortList → List (UInt16 × Bool)
  | plain _ ports => ports.map fun port => (port, false)
  | marked _ ports _ => ports

def inverted : PortList → Bool
  | plain _ _ => false
  | marked _ _ inverted => inverted

theorem reads_unmarked (ports : List UInt16) : Reads (ports.map fun port => (port, false)) (ports.map .single) := by
  induction ports with
  | nil => exact .done
  | cons port rest ih => exact ih.single

theorem test_eq_join (list : PortList) :
    list.test = (join 0 list.entries).map fun items => .list items list.inverted := by
  cases list with
  | plain side ports =>
    rw [entries, join_of_reads (reads_unmarked ports)]
    rfl
  | marked side ports inverted => rfl

theorem test_eq_ok {list : PortList} {asked : PortTest} :
    list.test = .ok asked ↔ ∃ items, Reads list.entries items ∧ asked = .list items list.inverted := by
  rw [test_eq_join, map_eq_ok]
  constructor
  · rintro ⟨items, joined, rfl⟩
    exact ⟨items, join_eq_ok.mp joined, rfl⟩
  · rintro ⟨items, reads, rfl⟩
    exact ⟨items, join_of_reads reads, rfl⟩

/-- The port in the slot at an index: two bytes, the low one first. -/
def portAt (data : Bytes) (index : Nat) : UInt16 :=
  UInt16.ofNat ((data.getD (2 + 2 * index) 0).toNat + 256 * (data.getD (2 + 2 * index + 1) 0).toNat)

/-- Data of the plain form end before the marks, which are then unset. -/
def markAt (data : Bytes) (index : Nat) : Bool := data.getD (32 + index) 0 != 0

def invertedAt (data : Bytes) : Bool := data.getD 47 0 != 0

/-- The first slots of a block's data. -/
def slots (data : Bytes) (count : Nat) : List (UInt16 × Bool) :=
  (List.range count).map fun index => (portAt data index, markAt data index)

theorem length_slots (data : Bytes) (count : Nat) : (slots data count).length = count := by
  rw [slots, List.length_map, List.length_range]

/-- Data of a known size, with the bytes that say for which side the ports are and how many there are. -/
structure Header (data : Bytes) (selector count : UInt8) : Prop where
  size : data.length = plainSize ∨ data.length = markedSize
  selector : data[0]? = some selector
  count : data[1]? = some count

/-- The selector 2 is for both sides, 0 for the source and 1 for the destination. -/
def Selects (selector : UInt8) : Side → Prop
  | .source => selector = 0 ∨ selector = 2
  | .destination => selector = 1 ∨ selector = 2

instance : (selector : UInt8) → (side : Side) → Decidable (Selects selector side)
  | _, .source => inferInstanceAs (Decidable (_ ∨ _))
  | _, .destination => inferInstanceAs (Decidable (_ ∨ _))

/-- What the data of a block ask of a side, or why they cannot be read. -/
inductive Told (data : Bytes) (side : Side) : Except LayoutError (Option PortTest) → Prop
  | unknown (small : data.length ≠ plainSize) (large : data.length ≠ markedSize) : Told data side (.ok none)
  | selector {selector count : UInt8} (header : Header data selector count) (high : 2 < selector) :
      Told data side (.error (.invalidPortSide selector))
  | count {selector count : UInt8} (header : Header data selector count) (known : selector ≤ 2) (high : 15 < count) :
      Told data side (.error (.tooManyPorts count))
  | silent {selector count : UInt8} (header : Header data selector count) (known : selector ≤ 2) (few : count ≤ 15)
      (nothing : ¬ Selects selector side ∨ count = 0) : Told data side (.ok none)
  | dangling {selector count : UInt8} (header : Header data selector count) (known : selector ≤ 2) (few : count ≤ 15)
      (selects : Selects selector side) (dangles : Dangles (slots data count.toNat)) :
      Told data side (.error (.danglingPortRange (count.toNat - 1)))
  | items {selector count : UInt8} {items : List PortItem} (header : Header data selector count) (known : selector ≤ 2)
      (few : count ≤ 15) (selects : Selects selector side) (filled : count ≠ 0)
      (reads : Reads (slots data count.toNat) items) : Told data side (.ok (some (.list items (invertedAt data))))

variable {data : Bytes} {selector count : UInt8} {side : Side}

theorem exists_header (size : data.length = plainSize ∨ data.length = markedSize) :
    ∃ selector count, Header data selector count := by
  have long : 1 < data.length := by
    rcases size with size | size <;> rw [size] <;> decide
  exact ⟨data[0], data[1], size, List.getElem?_eq_getElem (by omega), List.getElem?_eq_getElem long⟩

theorem le_two_iff : selector ≤ 2 ↔ selector = 0 ∨ selector = 1 ∨ selector = 2 := by
  constructor
  · intro small
    have bound : selector.toNat ≤ 2 := UInt8.le_iff_toNat_le.mp small
    have number : selector.toNat = 0 ∨ selector.toNat = 1 ∨ selector.toNat = 2 := by omega
    exact number.imp UInt8.toNat_inj.mp (Or.imp UInt8.toNat_inj.mp UInt8.toNat_inj.mp)
  · rintro (rfl | rfl | rfl) <;> decide

theorem ofCode?_of_known (known : selector ≤ 2) :
    ∃ selected, PortSide.ofCode? selector = some selected ∧ ∀ side, selected.covers side = true ↔ Selects selector side := by
  rcases le_two_iff.mp known with rfl | rfl | rfl
  · exact ⟨.source, rfl, fun side => by cases side <;> decide⟩
  · exact ⟨.destination, rfl, fun side => by cases side <;> decide⟩
  · exact ⟨.either, rfl, fun side => by cases side <;> decide⟩

theorem ofCode?_of_high (high : 2 < selector) : PortSide.ofCode? selector = none := by
  have unknown : ¬ (selector = 0 ∨ selector = 1 ∨ selector = 2) := by
    rw [← le_two_iff]
    exact UInt8.not_le.mpr high
  rw [not_or, not_or] at unknown
  rw [PortSide.ofCode?, if_neg unknown.1, if_neg unknown.2.1, if_neg unknown.2.2]

/-- The list that the first slots of a block make up. -/
def listOf (data : Bytes) (selected : PortSide) (count : Nat) : PortList :=
  if data.length = plainSize then plain selected ((slots data count).map Prod.fst)
  else marked selected (slots data count) (invertedAt data)

theorem parse_of_unknown (small : data.length ≠ plainSize) (large : data.length ≠ markedSize) : parse data = .ok none := by
  unfold parse
  rw [if_pos ⟨small, large⟩]
  rfl

theorem Header.parse_eq (header : Header data selector count) : parse data =
    match PortSide.ofCode? selector with
    | none => .error (.invalidPortSide selector)
    | some selected =>
      if maxPorts < count.toNat then .error (.tooManyPorts count)
      else .ok (some (listOf data selected count.toNat)) := by
  have sized : ¬ (data.length ≠ plainSize ∧ data.length ≠ markedSize) := by
    rintro ⟨small, large⟩
    exact header.size.elim small large
  have long : 32 ≤ data.length := by
    rcases header.size with size | size <;> rw [size] <;> decide
  unfold parse
  rw [if_neg sized, Bytes.byteAt_of_getElem? header.selector, ok_bind]
  cases PortSide.ofCode? selector with
  | none => rfl
  | some selected =>
    dsimp only
    rw [Bytes.byteAt_of_getElem? header.count, ok_bind]
    split
    next many => rfl
    next few =>
      -- Data of both sizes have the ports of all fifteen slots; those of the wide one have the marks, too.
      have bound : count.toNat ≤ 15 := Nat.le_of_not_lt few
      have ports : (List.range count.toNat).mapM (fun index => data.word16At (2 + 2 * index)) =
          .ok ((List.range count.toNat).map (portAt data)) := by
        apply mapM_of_ok
        intro index inside
        have inside := List.mem_range.mp inside
        exact Bytes.word16At_getD (by omega)
      rw [ports, ok_bind, listOf]
      by_cases size : data.length = plainSize
      · rw [if_pos size, if_pos size, slots, List.map_map]
        rfl
      · have large : data.length = 48 := header.size.resolve_left size
        have marks : (List.range count.toNat).mapM (fun index => data.byteAt (32 + index)) =
            .ok ((List.range count.toNat).map fun index => data.getD (32 + index) 0) := by
          apply mapM_of_ok
          intro index inside
          have inside := List.mem_range.mp inside
          exact Bytes.byteAt_getD (by omega)
        have pairs : ((List.range count.toNat).map (portAt data)).zip
            (((List.range count.toNat).map fun index => data.getD (32 + index) 0).map (· != 0)) =
            slots data count.toNat := by
          rw [List.map_map, List.zip_map']
          rfl
        rw [if_neg size, if_neg size, marks, ok_bind, Bytes.byteAt_getD (by omega), ok_bind, pairs]
        rfl

theorem listOf_side (selected : PortSide) (count : Nat) : (listOf data selected count).side = selected := by
  unfold listOf
  split <;> rfl

theorem listOf_ports (selected : PortSide) (count : Nat) :
    (listOf data selected count).ports = (slots data count).map Prod.fst := by
  unfold listOf
  split <;> rfl

/-- Data of the plain form have no marks that could be set. -/
theorem listOf_entries (selected : PortSide) (count : Nat) : (listOf data selected count).entries = slots data count := by
  unfold listOf
  split
  next small =>
    have unmarked (index : Nat) : markAt data index = false := by
      have behind : data.length ≤ 32 + index := by
        rw [small]
        exact Nat.le_add_right 32 index
      rw [markAt, List.getD_eq_default data 0 behind]
      rfl
    simp [entries, slots, unmarked]
  next => rfl

theorem listOf_inverted (selected : PortSide) (count : Nat) :
    (listOf data selected count).inverted = invertedAt data := by
  unfold listOf
  split
  next small =>
    have behind : data.length ≤ 47 := by
      rw [small]
      decide
    rw [invertedAt, List.getD_eq_default data 0 behind]
    rfl
  next => rfl

variable {block : MatchBlock} {outcome : Except LayoutError (Option PortTest)}

theorem testOf_value (block : MatchBlock) (side : Side) : (testOf block side).value = parse block.data >>= fun
    | none => .ok none
    | some list =>
      if !list.side.covers side || list.ports.isEmpty then .ok none else list.test.map some := by
  rw [testOf, Attempt.value_bind, Attempt.value_ofExcept]
  cases parse block.data with
  | error error => rfl
  | ok found =>
    cases found with
    | none => rfl
    | some list =>
      dsimp only [ok_bind]
      split
      next => rfl
      next =>
        rw [Attempt.value_map, Attempt.value_ofExcept]

theorem Header.testOf_value (header : Header block.data selector count) (known : selector ≤ 2) (few : count ≤ 15) :
    (testOf block side).value =
      if ¬ Selects selector side ∨ count = 0 then .ok none
      else (join 0 (slots block.data count.toNat)).map fun items => some (.list items (invertedAt block.data)) := by
  obtain ⟨selected, code, covers⟩ := ofCode?_of_known known
  have bound : count.toNat ≤ maxPorts := UInt8.le_iff_toNat_le.mp few
  rw [PortList.testOf_value, header.parse_eq, code]
  dsimp only
  rw [if_neg (Nat.not_lt.mpr bound), ok_bind]
  dsimp only
  rw [listOf_side, listOf_ports, test_eq_join, listOf_entries, listOf_inverted]
  have empty : ((slots block.data count.toNat).map Prod.fst).isEmpty = true ↔ count = 0 := by
    rw [List.isEmpty_iff, List.map_eq_nil_iff, ← List.length_eq_zero_iff, length_slots]
    show count.toNat = (0 : UInt8).toNat ↔ count = 0
    exact UInt8.toNat_inj
  have nothing : (!selected.covers side || ((slots block.data count.toNat).map Prod.fst).isEmpty) = true ↔
      ¬ Selects selector side ∨ count = 0 := by
    rw [Bool.or_eq_true, empty, Bool.not_eq_true', ← covers side, Bool.not_eq_true]
  by_cases silent : ¬ Selects selector side ∨ count = 0
  · rw [if_pos silent, if_pos (nothing.mpr silent)]
  · rw [if_neg silent, if_neg (fun held => silent (nothing.mp held))]
    cases join 0 (slots block.data count.toNat) <;> rfl

theorem value_of_told (told : Told block.data side outcome) : (testOf block side).value = outcome := by
  cases told with
  | unknown small large =>
    rw [testOf_value, parse_of_unknown small large]
    rfl
  | selector header high =>
    rw [testOf_value, header.parse_eq, ofCode?_of_high high]
    rfl
  | count header known high =>
    obtain ⟨selected, code, -⟩ := ofCode?_of_known known
    have many : maxPorts < UInt8.toNat _ := UInt8.lt_iff_toNat_lt.mp high
    rw [testOf_value, header.parse_eq, code]
    dsimp only
    rw [if_pos many]
    rfl
  | silent header known few nothing => rw [header.testOf_value known few, if_pos nothing]
  | @dangling selector count header known few selects dangles =>
    have filled : count ≠ 0 := by
      rintro rfl
      obtain ⟨before, -, port, -, none⟩ := dangles
      exact List.append_ne_nil_of_right_ne_nil before (List.cons_ne_nil (port, true) []) none.symm
    have asked : ¬ (¬ Selects selector side ∨ count = 0) := not_or.mpr ⟨not_not.mpr selects, filled⟩
    rw [header.testOf_value known few, if_neg asked, join_of_dangles dangles, length_slots, Nat.zero_add]
    rfl
  | @items selector count items header known few selects filled reads =>
    have asked : ¬ (¬ Selects selector side ∨ count = 0) := not_or.mpr ⟨not_not.mpr selects, filled⟩
    rw [header.testOf_value known few, if_neg asked, join_of_reads reads]
    rfl

theorem exists_told (data : Bytes) (side : Side) : ∃ outcome, Told data side outcome := by
  by_cases size : data.length = plainSize ∨ data.length = markedSize
  · obtain ⟨selector, count, header⟩ := exists_header size
    by_cases known : selector ≤ 2
    · by_cases few : count ≤ 15
      · by_cases nothing : ¬ Selects selector side ∨ count = 0
        · exact ⟨_, .silent header known few nothing⟩
        · obtain ⟨selects, filled⟩ := not_or.mp nothing
          rcases reads_or_dangles (slots data count.toNat) with ⟨items, reads⟩ | dangles
          · exact ⟨_, .items header known few (not_not.mp selects) filled reads⟩
          · exact ⟨_, .dangling header known few (not_not.mp selects) dangles⟩
      · exact ⟨_, .count header known (UInt8.not_le.mp few)⟩
    · exact ⟨_, .selector header (UInt8.not_le.mp known)⟩
  · obtain ⟨small, large⟩ := not_or.mp size
    exact ⟨_, .unknown small large⟩

theorem testOf_value_eq_iff : (testOf block side).value = outcome ↔ Told block.data side outcome := by
  constructor
  · rintro rfl
    obtain ⟨outcome, told⟩ := exists_told block.data side
    rw [value_of_told told]
    exact told
  · exact value_of_told

/-- The text of what a block asks of one side. -/
def textOf (block : MatchBlock) (side : Side) : Except LayoutError (Option String) :=
  (testOf block side).value.map (Option.map PortTest.text)

end Match.PortList

end FilterWatch
