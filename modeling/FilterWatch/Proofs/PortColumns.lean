import FilterWatch.Match.PortList
import FilterWatch.Proofs.Outcomes

/-! Lists of ports whose marks are kept in a list of their own and looked up by the index of the port.
As many marks as ports are read out of a block, so no lookup misses, and the items are those of the
ports and marks put together. -/

namespace FilterWatch
open Proofs.Outcomes

/-- Why something is not found by its place: it cannot be read there, or the place lies behind the end of a list. -/
inductive PlaceFault
  | layout (error : LayoutError)
  | outOfRange (index length : Nat)
  deriving DecidableEq, Repr

namespace PlaceFault

/-- The element at an index, which has to be there. -/
def lookup (list : List α) (index : Nat) : Except PlaceFault α :=
  match list[index]? with
  | some value => .ok value
  | none => .error (.outOfRange index list.length)

theorem lookup_eq_ok {list : List α} {index : Nat} {value : α} :
    lookup list index = .ok value ↔ list[index]? = some value := by
  unfold lookup
  cases list[index]? <;> simp

end PlaceFault

namespace Match.PortList

open PlaceFault

/-- The ports and the marks in a block's data, of each as many as the data announce. -/
def Columns (data : Bytes) (ports : List UInt16) (marks : List Bool) : Prop :=
  ∃ count, data.byteAt 1 = .ok count ∧
    ((List.range count.toNat).mapM fun index => data.word16At (2 + 2 * index)) = .ok ports ∧
    ((List.range count.toNat).mapM fun index => (data.byteAt (32 + index)).map (· != 0)) = .ok marks

/-- The items from an index on. The upper end of a range may be missing; the mark of a port may not. -/
def itemsFrom (ports : List UInt16) (marks : List Bool) (index : Nat) : Except PlaceFault (List PortItem) :=
  if index < ports.length then
    lookup ports index >>= fun port =>
    lookup marks index >>= fun joined =>
    if joined then
      match ports[index + 1]? with
      | some high => (itemsFrom ports marks (index + 2)).map (.span port high :: ·)
      | none => .error (.layout (.danglingPortRange index))
    else (itemsFrom ports marks (index + 1)).map (.single port :: ·)
  else .ok []
termination_by ports.length - index

variable {data : Bytes} {ports : List UInt16} {marks : List Bool}

theorem Columns.length_eq (columns : Columns data ports marks) : ports.length = marks.length := by
  obtain ⟨count, _, readPorts, readMarks⟩ := columns
  have first := map_of_mapM (g := fun _ => ()) (h := fun _ => ()) readPorts fun _ _ _ => rfl
  have second := map_of_mapM (g := fun _ => ()) (h := fun _ => ()) readMarks fun _ _ _ => rfl
  simpa using congrArg List.length (first.trans second.symm)

theorem exists_columns {side : PortSide} {list : List (UInt16 × Bool)} {inverted : Bool}
    (parsed : parse data = .ok (some (.marked side list inverted))) :
    ∃ ports marks, Columns data ports marks ∧ list = ports.zip marks := by
  unfold parse at parsed
  split at parsed
  · cases parsed
  obtain ⟨selector, _, parsed⟩ := bind_eq_ok.mp parsed
  split at parsed
  · obtain ⟨count, announced, parsed⟩ := bind_eq_ok.mp parsed
    dsimp only at parsed
    split at parsed
    · cases parsed
    obtain ⟨ports, readPorts, parsed⟩ := bind_eq_ok.mp parsed
    split at parsed
    · cases parsed
    obtain ⟨marks, readMarks, parsed⟩ := bind_eq_ok.mp parsed
    obtain ⟨_, _, parsed⟩ := bind_eq_ok.mp parsed
    cases parsed
    refine ⟨ports, marks.map (· != 0), ⟨count, announced, readPorts, ?_⟩, rfl⟩
    rw [mapM_map_eq, readMarks]
    rfl
  · cases parsed

theorem column_at {index : Nat} {port : UInt16} {mark : Bool} {rest : List (UInt16 × Bool)}
    (ahead : (ports.zip marks).drop index = (port, mark) :: rest) :
    ports[index]? = some port ∧ marks[index]? = some mark ∧ (ports.zip marks).drop (index + 1) = rest := by
  have here : (ports.zip marks)[index]? = some (port, mark) := by
    rw [← Nat.add_zero index, ← List.getElem?_drop, ahead]
    rfl
  obtain ⟨inPorts, inMarks⟩ := List.getElem?_zip_eq_some.mp here
  exact ⟨inPorts, inMarks, by rw [← List.drop_drop, ahead]; rfl⟩

theorem itemsFrom_eq_join (same : ports.length = marks.length) {index : Nat} {pairs : List (UInt16 × Bool)}
    (ahead : (ports.zip marks).drop index = pairs) :
    itemsFrom ports marks index = (join index pairs).mapError .layout := by
  fun_induction join index pairs with
  | case1 index =>
    have ended : (ports.zip marks).length ≤ index := List.drop_eq_nil_iff.mp ahead
    rw [List.length_zip, ← same, Nat.min_self] at ended
    rw [itemsFrom, if_neg (Nat.not_lt.mpr ended)]
    rfl
  | case2 index low =>
    obtain ⟨port, mark, behind⟩ := column_at ahead
    have last : (ports.zip marks).length ≤ index + 1 := List.drop_eq_nil_iff.mp behind
    rw [List.length_zip, ← same, Nat.min_self] at last
    rw [itemsFrom, if_pos (List.getElem?_eq_some_iff.mp port).1, lookup_eq_ok.mpr port, lookup_eq_ok.mpr mark, ok_bind,
      ok_bind, if_pos rfl, List.getElem?_eq_none last]
    rfl
  | case3 index low high mark rest ih =>
    obtain ⟨port, joined, behind⟩ := column_at ahead
    obtain ⟨upper, _, others⟩ := column_at behind
    rw [itemsFrom, if_pos (List.getElem?_eq_some_iff.mp port).1, lookup_eq_ok.mpr port, lookup_eq_ok.mpr joined, ok_bind,
      ok_bind, if_pos rfl, upper, ih others]
    cases join (index + 2) rest <;> rfl
  | case4 index port rest ih =>
    obtain ⟨here, mark, others⟩ := column_at ahead
    rw [itemsFrom, if_pos (List.getElem?_eq_some_iff.mp here).1, lookup_eq_ok.mpr here, lookup_eq_ok.mpr mark, ok_bind,
      ok_bind, if_neg Bool.false_ne_true, ih others]
    cases join (index + 1) rest <;> rfl

/-- No mark of a list in a block's data is missed, and the items are those that the list stands for. -/
def MarksFound (data : Bytes) : Prop :=
  ∀ side list inverted, parse data = .ok (some (.marked side list inverted)) →
    ∃ ports marks, Columns data ports marks ∧ itemsFrom ports marks 0 = (join 0 list).mapError .layout

theorem marksFound (data : Bytes) : MarksFound data := by
  intro side list inverted parsed
  obtain ⟨ports, marks, columns, rfl⟩ := exists_columns parsed
  exact ⟨ports, marks, columns, itemsFrom_eq_join columns.length_eq rfl⟩

end Match.PortList

end FilterWatch
