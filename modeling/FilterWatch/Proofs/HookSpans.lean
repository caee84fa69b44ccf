import FilterWatch.Proofs.Snapshots
import Mathlib.Data.List.Pairwise

/-! The spans of the hooks, told by the info alone. The built-in chains cover exactly these spans, so
that what the spans spare is what the user chains are made of. -/

namespace FilterWatch
open Proofs.Outcomes

theorem Hook.mem_all (hook : Hook) : hook ∈ Hook.all := by
  cases hook <;> decide

namespace TableInfo

/-- An offset lies between the entry and the underflow of a hook that the table has, or on either. -/
def Spans (info : TableInfo) (hook : Hook) (offset : Nat) : Prop :=
  hook.isIn info.validHooks = true ∧ (info.hookEntry.get hook).toNat ≤ offset ∧
    offset ≤ (info.underflow.get hook).toNat

instance (info : TableInfo) (hook : Hook) (offset : Nat) : Decidable (info.Spans hook offset) :=
  inferInstanceAs (Decidable (_ ∧ _ ∧ _))

def Spares (info : TableInfo) (record : Record) : Prop := ∀ hook ∈ Hook.all, ¬ info.Spans hook record.offset

instance (info : TableInfo) (record : Record) : Decidable (info.Spares record) :=
  inferInstanceAs (Decidable (∀ hook ∈ Hook.all, ¬ info.Spans hook record.offset))

def spared (info : TableInfo) (records : List Record) : List Record := records.filter (info.Spares ·)

theorem spares_iff {info : TableInfo} {record : Record} :
    info.Spares record ↔ ∀ hook, ¬ info.Spans hook record.offset :=
  ⟨fun spares hook => spares hook hook.mem_all, fun spares hook _ => spares hook⟩

theorem mem_spared {info : TableInfo} {records : List Record} {record : Record} :
    record ∈ info.spared records ↔ record ∈ records ∧ info.Spares record := by
  simp [spared]

end TableInfo

namespace Chain

variable {info : TableInfo} {body : List Record} {hook : Hook} {chain : Chain}

/-- A hook has a built-in chain if its entry and its underflow are offsets of records, in this order. -/
theorem exists_builtin_iff : (∃ chain, builtin info body hook = .ok chain) ↔
    (info.hookEntry.get hook).toNat ≤ (info.underflow.get hook).toNat ∧
      (∃ record ∈ body, record.offset = (info.hookEntry.get hook).toNat) ∧
      ∃ record ∈ body, record.offset = (info.underflow.get hook).toNat := by
  unfold builtin
  simp only
  cases found : body.find? (·.offset = (info.underflow.get hook).toNat) with
  | none =>
    have absent := List.find?_eq_none.mp found
    simp only [decide_eq_true_eq] at absent
    constructor
    · rintro ⟨chain, built⟩
      cases built
    · rintro ⟨_, _, record, member, here⟩
      exact absurd here (absent record member)
  | some policy =>
    have here : policy.offset = (info.underflow.get hook).toNat := by simpa using List.find?_some found
    have member := List.mem_of_find?_eq_some found
    dsimp only
    constructor
    · rintro ⟨chain, built⟩
      split at built
      next fits =>
        obtain ⟨entry, first, known⟩ := List.any_eq_true.mp fits.2
        exact ⟨fits.1, ⟨entry, first, of_decide_eq_true known⟩, policy, member, here⟩
      · cases built
    · rintro ⟨ordered, ⟨entry, first, there⟩, _⟩
      have known : body.any (·.offset = (info.hookEntry.get hook).toNat) = true :=
        List.any_eq_true.mpr ⟨entry, first, by simpa using there⟩
      exact ⟨_, if_pos ⟨ordered, known⟩⟩

theorem spans_builtin (valid : hook.isIn info.validHooks = true) (built : builtin info body hook = .ok chain)
    (offset : Nat) : chain.spans offset = true ↔ info.Spans hook offset := by
  obtain ⟨policy, _, here, _, rfl⟩ := builtin_eq_ok built
  simp [spans, TableInfo.Spans, valid, here]

/-- The built-in chains cover what the hooks span, and nothing else. -/
theorem isOutside_iff {builtins : List Chain}
    (spanned : (Hook.all.filter (·.isIn info.validHooks)).mapM (builtin info body) = .ok builtins) (record : Record) :
    record.isOutside builtins = true ↔ info.Spares record := by
  simp only [Record.isOutside, Bool.not_eq_true', List.any_eq_false, TableInfo.spares_iff]
  constructor
  · intro free hook covers
    obtain ⟨chain, member, built⟩ := exists_of_mapM spanned (List.mem_filter.mpr ⟨hook.mem_all, covers.1⟩)
    exact free chain member ((spans_builtin covers.1 built record.offset).mpr covers)
  · intro free chain member covers
    obtain ⟨hook, valid, built⟩ := mem_of_mapM spanned member
    exact free hook ((spans_builtin (List.mem_filter.mp valid).2 built record.offset).mp covers)

theorem filter_isOutside {builtins : List Chain}
    (spanned : (Hook.all.filter (·.isIn info.validHooks)).mapM (builtin info body) = .ok builtins) :
    body.filter (·.isOutside builtins) = info.spared body := by
  refine List.filter_congr fun record _ => ?_
  rw [Bool.eq_iff_iff, isOutside_iff spanned record, decide_eq_true_eq]

end Chain

/-- How the records of a snapshot divide: the last one closes the table, and the others that the
hooks spare are the passages of the user chains. -/
structure Division (info : TableInfo) (entries : Bytes) (body : List Record) (closing : Record)
    (passages : List Passage) : Prop where
  records : Table.recordsFrom entries 0 = .ok (body ++ [closing])
  valid : ∀ passage ∈ passages, passage.Valid
  spared : info.spared body = passages.flatMap Passage.records

theorem Anatomy.division {info : TableInfo} {entries : Bytes} {body : List Record} {closing : Record}
    {builtin : List Chain} {passages : List Passage}
    (anatomy : Anatomy info entries body closing builtin passages) : Division info entries body closing passages :=
  ⟨Table.recordsFrom_eq_ok.mpr ⟨anatomy.consecutive, anatomy.bytes, anatomy.announced⟩, anatomy.valid,
    (Chain.filter_isOutside anatomy.spanned).symm.trans anatomy.outside⟩

namespace Division

variable {info : TableInfo} {entries : Bytes} {body : List Record} {closing : Record} {passages : List Passage}

theorem consecutive (division : Division info entries body closing passages) : Record.Consecutive 0 body := by
  obtain ⟨consecutive, _⟩ := Table.recordsFrom_eq_ok.mp division.records
  exact (Record.Consecutive.append.mp consecutive).1

theorem increasing (division : Division info entries body closing passages) :
    (passages.flatMap Passage.records).Pairwise fun earlier later => earlier.offset < later.offset := by
  rw [← division.spared]
  exact division.consecutive.increasing.sublist List.filter_sublist

theorem nodup_records (division : Division info entries body closing passages) :
    (passages.flatMap Passage.records).Nodup := by
  refine division.increasing.imp ?_
  rintro earlier later before rfl
  exact Nat.lt_irrefl _ before

theorem mem_body (division : Division info entries body closing passages) {passage : Passage}
    (member : passage ∈ passages) {record : Record} (inside : record ∈ passage.records) :
    record ∈ body ∧ info.Spares record := by
  apply TableInfo.mem_spared.mp
  rw [division.spared]
  exact List.mem_flatMap.mpr ⟨passage, member, inside⟩

theorem nodup (division : Division info entries body closing passages) : passages.Nodup := by
  refine ((List.nodup_flatMap.mp division.nodup_records).2).imp ?_
  rintro earlier later apart rfl
  exact List.disjoint_left.mp apart earlier.head_mem earlier.head_mem

theorem eq_of_mem_records (division : Division info entries body closing passages) {first second : Passage}
    (left : first ∈ passages) (right : second ∈ passages) {record : Record}
    (inFirst : record ∈ first.records) (inSecond : record ∈ second.records) : first = second := by
  have apart := (List.nodup_flatMap.mp division.nodup_records).2
  have symmetric : Std.Symm (Function.onFun List.Disjoint Passage.records) :=
    ⟨fun _ _ disjoint _ later earlier => disjoint earlier later⟩
  by_contra differ
  exact List.disjoint_left.mp (apart.forall left right differ) inFirst inSecond

theorem eq_of_head (division : Division info entries body closing passages) {first second : Passage}
    (left : first ∈ passages) (right : second ∈ passages) (same : first.head.next = second.head.next) :
    first = second := by
  have heads : first.head = second.head := division.consecutive.eq_of_next
    (division.mem_body left first.head_mem).1 (division.mem_body right second.head_mem).1 same
  exact division.eq_of_mem_records left right first.head_mem (heads ▸ second.head_mem)

end Division

end FilterWatch
