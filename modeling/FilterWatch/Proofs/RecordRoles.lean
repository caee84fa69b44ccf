import FilterWatch.Proofs.RoundTrip

/-! No record of an accepted snapshot is lost or counted twice. What a hook spans is the policy or a
rule of the hook's chain; what no hook spans has one part in one user chain. -/

namespace FilterWatch
open Proofs.Outcomes

/-- The part of a record in a user chain. -/
inductive Role
  | head
  | rule
  | last
  deriving DecidableEq, Repr

namespace Passage

def Casts (passage : Passage) (record : Record) : Role → Prop
  | .head => record = passage.head
  | .rule => record ∈ passage.rules
  | .last => record = passage.last

theorem mem_records {passage : Passage} {record : Record} :
    record ∈ passage.records ↔ ∃ role, passage.Casts record role := by
  simp only [records, List.cons_append, List.mem_cons, List.mem_append, List.mem_nil_iff, or_false]
  constructor
  · rintro (head | rule | last)
    · exact ⟨.head, head⟩
    · exact ⟨.rule, rule⟩
    · exact ⟨.last, last⟩
  · rintro ⟨role, casts⟩
    cases role with
    | head => exact .inl casts
    | rule => exact .inr (.inl casts)
    | last => exact .inr (.inr casts)

/-- A passage without repetition gives every record one part. -/
theorem casts_unique {passage : Passage} (distinct : passage.records.Nodup) {record : Record}
    {first second : Role} (left : passage.Casts record first) (right : passage.Casts record second) :
    first = second := by
  rw [records, List.cons_append, List.nodup_cons, List.nodup_append] at distinct
  obtain ⟨apart, _, _, separate⟩ := distinct
  simp only [List.mem_append, List.mem_singleton, not_or] at apart
  have headRule : passage.head ∉ passage.rules := apart.1
  have ruleLast : passage.last ∉ passage.rules := fun rule => separate _ rule _ (by simp) rfl
  cases first <;> cases second <;> simp only [Casts] at left right <;> grind

end Passage

namespace Division

variable {info : TableInfo} {entries : Bytes} {body : List Record} {closing : Record} {passages : List Passage}

/-- What the hooks spare has one part in one passage. -/
theorem exists_unique_part (division : Division info entries body closing passages) {record : Record}
    (inside : record ∈ body) (spares : info.Spares record) :
    ∃! place : Passage × Role, place.1 ∈ passages ∧ place.1.Casts record place.2 := by
  have spared := TableInfo.mem_spared.mpr ⟨inside, spares⟩
  rw [division.spared] at spared
  obtain ⟨passage, member, own⟩ := List.mem_flatMap.mp spared
  obtain ⟨role, casts⟩ := Passage.mem_records.mp own
  refine ⟨(passage, role), ⟨member, casts⟩, ?_⟩
  rintro ⟨other, otherRole⟩ ⟨present, otherCasts⟩
  obtain rfl := division.eq_of_mem_records present member (Passage.mem_records.mpr ⟨otherRole, otherCasts⟩) own
  have distinct := (List.nodup_flatMap.mp division.nodup_records).1 other present
  exact Prod.ext rfl (Passage.casts_unique distinct otherCasts casts)

end Division

namespace Anatomy

variable {info : TableInfo} {entries : Bytes} {body : List Record} {closing : Record}
  {builtin : List Chain} {passages : List Passage}

theorem hooks_of_builtin (anatomy : Anatomy info entries body closing builtin passages) :
    builtin.map Chain.hook? = (Hook.all.filter (·.isIn info.validHooks)).map some := by
  refine map_of_mapM anatomy.spanned fun hook chain built => ?_
  obtain ⟨policy, _, _, _, rfl⟩ := Chain.builtin_eq_ok built
  rfl

theorem builtin_of_hook (anatomy : Anatomy info entries body closing builtin passages) {chain : Chain}
    (member : chain ∈ Passage.listed builtin passages) {hook : Hook} (hooked : chain.hook? = some hook) :
    chain ∈ builtin ∧ hook.isIn info.validHooks = true ∧ Chain.builtin info body hook = .ok chain := by
  rcases mem_listed.mp member with present | ⟨passage, _, rfl⟩
  · obtain ⟨own, valid, built⟩ := anatomy.mem_builtin present
    obtain ⟨policy, _, _, _, same⟩ := Chain.builtin_eq_ok built
    rw [same] at hooked
    cases hooked
    exact ⟨present, valid, built⟩
  · cases hooked

theorem spans_of_mem (anatomy : Anatomy info entries body closing builtin passages) {chain : Chain}
    (member : chain ∈ Passage.listed builtin passages) {hook : Hook} (hooked : chain.hook? = some hook)
    {record : Record} (belongs : record ∈ chain.rules ∨ chain.policy? = some record) :
    info.Spans hook record.offset := by
  obtain ⟨_, valid, built⟩ := anatomy.builtin_of_hook member hooked
  obtain ⟨policy, _, here, ordered, rfl⟩ := Chain.builtin_eq_ok built
  rcases belongs with rule | decides
  · have between := (List.mem_filter.mp rule).2
    simp only [decide_eq_true_eq] at between
    exact ⟨valid, between.1, by omega⟩
  · cases decides
    exact ⟨valid, ordered, by omega⟩

/-- What lies in a hook's span is the policy of the hook's chain or one of its rules. -/
theorem exists_of_spans (anatomy : Anatomy info entries body closing builtin passages) {hook : Hook}
    {record : Record} (inside : record ∈ body) (covered : info.Spans hook record.offset) :
    ∃ chain ∈ Passage.listed builtin passages, chain.hook? = some hook ∧
      if record.offset = (info.underflow.get hook).toNat then chain.policy? = some record else record ∈ chain.rules := by
  obtain ⟨valid, after, before⟩ := covered
  obtain ⟨chain, member, built⟩ := anatomy.exists_builtin valid
  obtain ⟨policy, present, here, _, rfl⟩ := Chain.builtin_eq_ok built
  refine ⟨_, mem_listed.mpr (.inl member), rfl, ?_⟩
  split
  next last =>
    have same := anatomy.division.consecutive.eq_of_offset present inside (here.trans last.symm)
    exact congrArg some same
  next earlier =>
    refine List.mem_filter.mpr ⟨inside, ?_⟩
    simp only [decide_eq_true_eq]
    omega

theorem nodup_heads (anatomy : Anatomy info entries body closing builtin passages) :
    (passages.map (Chain.start ∘ Passage.chain)).Nodup :=
  anatomy.division.nodup.map_on fun _ left _ right same => anatomy.division.eq_of_head left right same

theorem nodup_opened (anatomy : Anatomy info entries body closing builtin passages) :
    (passages.map Passage.chain).Nodup := by
  refine List.Nodup.of_map Chain.start ?_
  rw [List.map_map]
  exact anatomy.nodup_heads

theorem rules_increasing (anatomy : Anatomy info entries body closing builtin passages) {chain : Chain}
    (member : chain ∈ Passage.listed builtin passages) :
    chain.rules.Pairwise fun earlier later => earlier.offset < later.offset := by
  rcases mem_listed.mp member with hooked | ⟨passage, present, rfl⟩
  · obtain ⟨hook, _, built⟩ := anatomy.mem_builtin hooked
    obtain ⟨policy, _, _, _, rfl⟩ := Chain.builtin_eq_ok built
    exact anatomy.division.consecutive.increasing.sublist List.filter_sublist
  · have ordered := (List.pairwise_flatMap.mp anatomy.division.increasing).1 passage present
    rw [Passage.records, List.cons_append] at ordered
    exact ordered.of_cons.sublist (List.sublist_append_left _ _)

end Anatomy

namespace Table

theorem nameLe_iff {left right : Chain} :
    nameLe left right = true ↔ Bytes.ofText left.name ≤ Bytes.ofText right.name := decide_eq_true_iff

theorem pairwise_mergeSort_nameLe (chains : List Chain) :
    (chains.mergeSort nameLe).Pairwise fun earlier later => Bytes.ofText earlier.name ≤ Bytes.ofText later.name := by
  refine (List.pairwise_mergeSort ?_ ?_ chains).imp nameLe_iff.mp
  · intro first second third before after
    exact nameLe_iff.mpr (List.le_trans (nameLe_iff.mp before) (nameLe_iff.mp after))
  · intro left right
    rw [Bool.or_eq_true, nameLe_iff, nameLe_iff]
    exact List.le_total _ _

/-- The chains of an accepted snapshot, and the part of every record in them. -/
theorem every_record_placed {info : TableInfo} {entries : Bytes} {table : Table}
    (accepted : ofSnapshot info entries = .ok table) :
    ∃ body closing passages, Division info entries body closing passages ∧ (passages.map Passage.chain).Nodup ∧
      (∃ builtin user, table.chains = builtin ++ user ∧
        builtin.map Chain.hook? = (Hook.all.filter (·.isIn info.validHooks)).map some ∧
        user.Perm (passages.map Passage.chain) ∧
        user.Pairwise fun earlier later => Bytes.ofText earlier.name ≤ Bytes.ofText later.name) ∧
      (∀ chain ∈ table.chains, chain.rules.Pairwise fun earlier later => earlier.offset < later.offset) ∧
      (∀ record ∈ body, ∀ hook, info.Spans hook record.offset → ∃ chain ∈ table.chains, chain.hook? = some hook ∧
        if record.offset = (info.underflow.get hook).toNat then chain.policy? = some record
        else record ∈ chain.rules) ∧
      ∀ record ∈ body, info.Spares record →
        (∃! place : Passage × Role, place.1 ∈ passages ∧ place.1.Casts record place.2) ∧
        ∀ chain ∈ table.chains, chain.hook?.isSome = true → record ∉ chain.rules ∧ chain.policy? ≠ some record := by
  obtain ⟨body, closing, builtin, passages, anatomy, rfl⟩ := ofSnapshot_eq_ok.mp accepted
  have division := anatomy.division
  refine ⟨body, closing, passages, division, anatomy.nodup_opened, ?_, ?_, ?_, ?_⟩
  · exact ⟨builtin, _, rfl, anatomy.hooks_of_builtin, List.mergeSort_perm _ _, pairwise_mergeSort_nameLe _⟩
  · intro chain member
    exact anatomy.rules_increasing member
  · intro record inside hook covered
    exact anatomy.exists_of_spans inside covered
  · intro record inside spares
    refine ⟨division.exists_unique_part inside spares, fun chain member builtin => ?_⟩
    obtain ⟨hook, hooked⟩ := Option.isSome_iff_exists.mp builtin
    have free := TableInfo.spares_iff.mp spares hook
    exact ⟨fun rule => free (anatomy.spans_of_mem member hooked (.inl rule)),
      fun decides => free (anatomy.spans_of_mem member hooked (.inr decides))⟩

end Table

namespace TableDraft

theorem every_record_placed_sample : Table.ofSnapshot sample.builtInfo sample.builtEntries = .ok sample.built ∧
    ∃ body closing passages, Division sample.builtInfo sample.builtEntries body closing passages ∧
      ∃ builtin user, sample.built.chains = builtin ++ user ∧
        builtin.map Chain.hook? = [some .input, some .output] ∧ user.Perm (passages.map Passage.chain) := by
  have valid : sample.Valid := by decide
  obtain ⟨body, closing, passages, division, _, ⟨builtin, user, listed, hooks, same, _⟩, _⟩ :=
    Table.every_record_placed valid.accepted.2
  exact ⟨valid.accepted.2, body, closing, passages, division, builtin, user, listed, hooks, same⟩

end TableDraft

end FilterWatch
