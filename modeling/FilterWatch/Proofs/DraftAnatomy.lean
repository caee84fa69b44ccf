import FilterWatch.Proofs.DraftHooks
import FilterWatch.Proofs.DraftLayout
import FilterWatch.Proofs.DraftTargets

/-! The parts of the snapshot that a valid draft builds: its built-in chains are those of the
draft, each at its offset, and every user chain of the draft is a passage. -/

namespace FilterWatch
open Proofs.Outcomes

/-- Drafts of tables that a kernel could hold, with known targets only. -/
structure TableDraft.Valid (table : TableDraft) : Prop where
  hooks : (table.builtins.map BuiltinDraft.hook).Nodup
  names : (table.chains.map ChainDraft.name).Nodup
  plain : ∀ chain ∈ table.chains, 0 ∉ Bytes.ofText chain.name
  short : ∀ chain ∈ table.chains, (Bytes.ofText chain.name).length ≤ 29
  policies : ∀ chain ∈ table.builtins, chain.policy ∈ Verdict.meanings.map Prod.fst
  builtinRules : ∀ chain ∈ table.builtins, ∀ rule ∈ chain.rules,
    rule.target.Admitted (table.chains.map ChainDraft.name)
  userRules : ∀ chain ∈ table.chains, ∀ rule ∈ chain.rules,
    rule.target.Admitted (table.chains.map ChainDraft.name)
  sizes : ∀ rule ∈ table.records, rule.size ≤ 65535
  total : Draft.totalSize table.records < 2147483648

instance (table : TableDraft) : Decidable table.Valid :=
  decidable_of_iff
    ((table.builtins.map BuiltinDraft.hook).Nodup ∧ (table.chains.map ChainDraft.name).Nodup ∧
      (∀ chain ∈ table.chains, 0 ∉ Bytes.ofText chain.name) ∧
      (∀ chain ∈ table.chains, (Bytes.ofText chain.name).length ≤ 29) ∧
      (∀ chain ∈ table.builtins, chain.policy ∈ Verdict.meanings.map Prod.fst) ∧
      (∀ chain ∈ table.builtins, ∀ rule ∈ chain.rules,
        rule.target.Admitted (table.chains.map ChainDraft.name)) ∧
      (∀ chain ∈ table.chains, ∀ rule ∈ chain.rules,
        rule.target.Admitted (table.chains.map ChainDraft.name)) ∧
      (∀ rule ∈ table.records, rule.size ≤ 65535) ∧ Draft.totalSize table.records < 2147483648)
    ⟨fun ⟨hooks, names, plain, short, policies, builtinRules, userRules, sizes, total⟩ =>
      ⟨hooks, names, plain, short, policies, builtinRules, userRules, sizes, total⟩,
    fun valid => ⟨valid.hooks, valid.names, valid.plain, valid.short, valid.policies, valid.builtinRules,
      valid.userRules, valid.sizes, valid.total⟩⟩

namespace Draft

def policyImage (startOf : String → Except DraftError Nat) (place : Nat × BuiltinDraft) : Record :=
  (RuleDraft.unconditional (.verdict place.2.policy)).image startOf (place.1 + totalSize place.2.rules)

/-- The built-in chain that a placed chain becomes. -/
def builtinChain (startOf : String → Except DraftError Nat) (place : Nat × BuiltinDraft) : Chain where
  name := place.2.hook.chainName
  kind := .builtin place.2.hook (policyImage startOf place)
  start := place.1
  rules := images startOf place.1 place.2.rules

/-- Where the rules of a placed user chain begin. -/
def rulesStart (place : Nat × ChainDraft) : Nat := place.1 + place.2.head.size

/-- The passage that a placed user chain becomes. -/
def passage (startOf : String → Except DraftError Nat) (place : Nat × ChainDraft) : Passage where
  head := place.2.head.image startOf place.1
  name := place.2.name
  rules := images startOf (rulesStart place) place.2.rules
  last := (RuleDraft.unconditional (.verdict Verdict.ret)).image startOf
    (rulesStart place + totalSize place.2.rules)

theorem images_builtin (startOf : String → Except DraftError Nat) (place : Nat × BuiltinDraft) :
    images startOf place.1 place.2.records = images startOf place.1 place.2.rules ++ [policyImage startOf place] := by
  rw [BuiltinDraft.records, images_append, images_singleton]
  rfl

theorem spans_builtinChain {startOf : String → Except DraftError Nat} {place : Nat × BuiltinDraft} {offset : Nat} :
    (builtinChain startOf place).spans offset = true ↔
      place.1 ≤ offset ∧ offset ≤ place.1 + totalSize place.2.rules := decide_eq_true_iff

theorem passage_records (startOf : String → Except DraftError Nat) (place : Nat × ChainDraft) :
    (passage startOf place).records = images startOf place.1 place.2.records := by
  rw [ChainDraft.records, List.cons_append, images_cons, images_append, images_singleton]
  rfl

end Draft

namespace TableDraft

variable {table : TableDraft}

def body (table : TableDraft) : List Record :=
  Draft.images table.startOf 0 (table.builtinRecords ++ table.chains.flatMap ChainDraft.records)

def closing (table : TableDraft) : Record :=
  (RuleDraft.unconditional (.head Record.errorTarget)).image table.startOf
    (Draft.totalSize (table.builtinRecords ++ table.chains.flatMap ChainDraft.records))

def builtinChains (table : TableDraft) : List Chain := table.placedBuiltins.map (Draft.builtinChain table.startOf)

def passages (table : TableDraft) : List Passage := table.placedChains.map (Draft.passage table.startOf)

def builtInfo (table : TableDraft) : TableInfo := table.info (Draft.totalSize table.records)

def builtEntries (table : TableDraft) : Bytes :=
  (Draft.images table.startOf 0 table.records).flatMap Record.bytes

/-- The table of the draft's chains. -/
def built (table : TableDraft) : Table := ⟨table.builtInfo, Passage.listed table.builtinChains table.passages⟩

theorem images_records (table : TableDraft) :
    Draft.images table.startOf 0 table.records = table.body ++ [table.closing] := by
  rw [records, Draft.images_append, Draft.images_singleton, Nat.zero_add]
  rfl

theorem body_eq (table : TableDraft) :
    table.body = Draft.images table.startOf 0 table.builtinRecords ++ table.passages.flatMap Passage.records := by
  have users : Draft.images table.startOf (Draft.totalSize table.builtinRecords)
      (table.chains.flatMap ChainDraft.records) = table.passages.flatMap Passage.records := by
    rw [Draft.images_flatMap, passages, List.flatMap_map]
    simp only [Draft.passage_records]
    rfl
  rw [body, Draft.images_append, Nat.zero_add, users]

theorem closing_named (table : TableDraft) : table.closing.errorName = .ok (some Record.errorTarget) :=
  (RuleDraft.content_of_head rfl (by decide)).image_head rfl (by decide) (by decide) (by decide)

theorem builtin_within {place : Nat × BuiltinDraft} (member : place ∈ table.placedBuiltins) :
    place.1 + Draft.totalSize place.2.records ≤ Draft.totalSize table.builtinRecords := by
  obtain ⟨before, after, same, start⟩ := Draft.split_placed BuiltinDraft.records member
  rw [builtinRecords, same, start]
  simp only [List.flatMap_append, List.flatMap_cons, Draft.totalSize_append]
  omega

theorem mem_records_of_builtin {chain : BuiltinDraft} (present : chain ∈ table.builtins) :
    ∀ rule ∈ chain.records, rule ∈ table.records := by
  intro rule inside
  simp only [records, builtinRecords, List.mem_append, List.mem_flatMap, mem_sortedBuiltins]
  exact .inl (.inl ⟨chain, present, inside⟩)

theorem mem_records_of_chain {chain : ChainDraft} (present : chain ∈ table.chains) :
    ∀ rule ∈ chain.records, rule ∈ table.records := by
  intro rule inside
  simp only [records, List.mem_append, List.mem_flatMap]
  exact .inl (.inr ⟨chain, present, inside⟩)

/-- User chains that are given in the order of their names are listed as given. -/
theorem built_of_sorted (sorted : (table.passages.map Passage.chain).Pairwise fun left right =>
    Table.nameLe left right = true) :
    table.built = ⟨table.builtInfo, table.builtinChains ++ table.passages.map Passage.chain⟩ := by
  rw [built, Passage.listed, List.mergeSort_of_pairwise sorted]

namespace Valid

theorem resolved (valid : table.Valid) :
    ∀ name ∈ table.chains.map ChainDraft.name, ∃ start, table.startOf name = .ok start := by
  intro name named
  obtain ⟨offset, chain, placed, rfl⟩ := exists_placed named
  exact ⟨_, startOf_placed valid.names placed⟩

theorem laid (valid : table.Valid) : ∀ rule ∈ table.records, rule.Laid table.startOf := by
  intro rule member
  refine ⟨Nat.lt_succ_of_le (valid.sizes rule member), fun offset => ?_⟩
  have admitted : ∀ rule : RuleDraft, rule.target.Admitted (table.chains.map ChainDraft.name) →
      ∃ name data, rule.Content table.startOf offset name data := by
    intro rule known
    obtain ⟨name, data, content, _⟩ := RuleDraft.content_of_admitted known valid.resolved
    exact ⟨name, data, content⟩
  have verdict : ∀ code, ∃ name data,
      (RuleDraft.unconditional (.verdict code)).Content table.startOf offset name data :=
    fun code => ⟨_, _, RuleDraft.content_of_verdict rfl⟩
  simp only [records, List.mem_append, List.mem_singleton, builtinRecords, List.mem_flatMap,
    mem_sortedBuiltins] at member
  rcases member with (⟨chain, present, inside⟩ | ⟨chain, present, inside⟩) | rfl
  · simp only [BuiltinDraft.records, List.mem_append, List.mem_singleton] at inside
    rcases inside with inside | rfl
    · exact admitted rule (valid.builtinRules chain present rule inside)
    · exact verdict _
  · simp only [ChainDraft.records, List.cons_append, List.mem_cons, List.mem_append, List.mem_nil_iff,
      or_false] at inside
    rcases inside with rfl | inside | rfl
    · exact ⟨_, _, RuleDraft.content_of_head rfl (valid.short chain present)⟩
    · exact admitted rule (valid.userRules chain present rule inside)
    · exact verdict _
  · exact ⟨_, _, RuleDraft.content_of_head rfl (by decide)⟩

theorem laid_builtin (valid : table.Valid) {place : Nat × BuiltinDraft} (member : place ∈ table.placedBuiltins) :
    ∀ rule ∈ place.2.rules, rule.Laid table.startOf := by
  intro rule inside
  exact valid.laid rule (mem_records_of_builtin (mem_placedBuiltins member) rule (by simp [BuiltinDraft.records, inside]))

theorem consecutive (valid : table.Valid) : Record.Consecutive 0 (table.body ++ [table.closing]) := by
  rw [← images_records]
  exact Draft.images_consecutive valid.laid

theorem body_consecutive (valid : table.Valid) : Record.Consecutive 0 table.body :=
  (Record.Consecutive.append.mp valid.consecutive).1

/-- A placed built-in chain stands between the records before and after it. -/
theorem split_body (valid : table.Valid) {place : Nat × BuiltinDraft} (member : place ∈ table.placedBuiltins) :
    ∃ before after, Record.extent before = place.1 ∧
      table.body = before ++ Draft.images table.startOf place.1 place.2.rules ++
        (Draft.policyImage table.startOf place :: after) := by
  obtain ⟨before, after, same, start⟩ := Draft.split_placed BuiltinDraft.records member
  have parts : table.builtinRecords ++ table.chains.flatMap ChainDraft.records =
      before.flatMap BuiltinDraft.records ++ (place.2.records ++
        (after.flatMap BuiltinDraft.records ++ table.chains.flatMap ChainDraft.records)) := by
    rw [builtinRecords, same]
    simp only [List.flatMap_append, List.flatMap_cons, List.append_assoc]
  have laid : ∀ rule ∈ before.flatMap BuiltinDraft.records, rule.Laid table.startOf := by
    intro rule inside
    apply valid.laid
    rw [records, parts]
    exact List.mem_append_left _ (List.mem_append_left _ inside)
  rw [Nat.zero_add] at start
  refine ⟨Draft.images table.startOf 0 (before.flatMap BuiltinDraft.records),
    Draft.images table.startOf (place.1 + Draft.totalSize place.2.records)
      (after.flatMap BuiltinDraft.records ++ table.chains.flatMap ChainDraft.records),
    (Draft.images_extent laid).trans start.symm, ?_⟩
  rw [body, parts, Draft.images_append, Draft.images_append, Nat.zero_add, ← start, Draft.images_builtin]
  simp only [List.append_assoc, List.singleton_append]

theorem small (valid : table.Valid) :
    Draft.totalSize (table.builtinRecords ++ table.chains.flatMap ChainDraft.records) < 2147483648 := by
  have total := valid.total
  rw [records, Draft.totalSize_append] at total
  omega

theorem builtin_small (valid : table.Valid) {place : Nat × BuiltinDraft} (member : place ∈ table.placedBuiltins) :
    place.1 + Draft.totalSize place.2.rules < 2147483648 := by
  have bound := builtin_within member
  have total := valid.small
  simp only [BuiltinDraft.records, Draft.totalSize_append] at bound total
  omega

theorem builtin_eq (valid : table.Valid) {place : Nat × BuiltinDraft} (member : place ∈ table.placedBuiltins)
    (size : Nat) : Chain.builtin (table.info size) table.body place.2.hook =
      .ok (Draft.builtinChain table.startOf place) := by
  have small := valid.builtin_small member
  obtain ⟨entry, underflow⟩ := announce_get _ (nodup_placedBuiltins valid.hooks) member
  rw [← info_eq table size] at entry underflow
  have starts : ((table.info size).hookEntry.get place.2.hook).toNat = place.1 := by
    rw [entry, UInt32.toNat_ofNat']
    omega
  have ends : ((table.info size).underflow.get place.2.hook).toNat =
      place.1 + Draft.totalSize place.2.rules := by
    rw [underflow, UInt32.toNat_ofNat']
    omega
  obtain ⟨before, after, start, parts⟩ := valid.split_body member
  have ordered := valid.body_consecutive
  have policy : table.body.find? (·.offset = place.1 + Draft.totalSize place.2.rules) =
      some (Draft.policyImage table.startOf place) := by
    refine ordered.find?_offset ?_ rfl
    rw [parts]
    simp
  have known : table.body.any (·.offset = place.1) = true := by
    rw [parts]
    cases rules : place.2.rules with
    | nil => simp [Draft.policyImage, RuleDraft.image, rules, Draft.totalSize_nil]
    | cons rule rest => simp [Draft.images_cons, RuleDraft.image]
  have rules : table.body.filter (fun record => place.1 ≤ record.offset ∧
      record.offset < place.1 + Draft.totalSize place.2.rules) =
      Draft.images table.startOf place.1 place.2.rules := by
    rw [parts] at ordered ⊢
    exact ordered.filter_between (by omega) (by rw [Draft.images_extent (valid.laid_builtin member)])
  unfold Chain.builtin
  simp only [starts, ends, policy, known, rules, Nat.le_add_right, true_and, if_true]
  rfl

/-- The records of built-in chains are spanned by their own chain, those of user chains by none. -/
theorem outside (valid : table.Valid) :
    table.body.filter (·.isOutside table.builtinChains) = table.passages.flatMap Passage.records := by
  have ordered := valid.body_consecutive
  have builtinLaid : ∀ rule ∈ table.builtinRecords, rule.Laid table.startOf := fun rule inside =>
    valid.laid rule (List.mem_append_left _ (List.mem_append_left _ inside))
  rw [body_eq] at ordered ⊢
  obtain ⟨_, users⟩ := Record.Consecutive.append.mp ordered
  rw [Draft.images_extent builtinLaid, Nat.zero_add] at users
  -- What is within a built-in chain is in its span; what is behind the last of them is in none.
  have spanned : (Draft.images table.startOf 0 table.builtinRecords).filter
      (·.isOutside table.builtinChains) = [] := by
    refine List.filter_eq_nil_iff.mpr fun record member => ?_
    rw [builtinRecords, Draft.images_flatMap] at member
    obtain ⟨place, placed, own⟩ := List.mem_flatMap.mp member
    have laid := valid.laid_builtin placed
    have bounds : place.1 ≤ record.offset ∧ record.offset ≤ place.1 + Draft.totalSize place.2.rules := by
      rw [Draft.images_builtin] at own
      rcases List.mem_append.mp own with rule | policy
      · have bound := (Draft.images_consecutive laid).within rule
        have positive := record.size_pos
        rw [Draft.images_extent laid, Record.next] at bound
        omega
      · cases List.mem_singleton.mp policy
        exact ⟨Nat.le_add_right _ _, Nat.le_refl _⟩
    have spans : table.builtinChains.any (·.spans record.offset) = true :=
      List.any_eq_true.mpr ⟨_, List.mem_map.mpr ⟨place, placed, rfl⟩, Draft.spans_builtinChain.mpr bounds⟩
    simp [Record.isOutside, spans]
  have free : (table.passages.flatMap Passage.records).filter (·.isOutside table.builtinChains) =
      table.passages.flatMap Passage.records := by
    refine List.filter_eq_self.mpr fun record member => ?_
    have behind := (users.within member).1
    have unspanned : table.builtinChains.any (·.spans record.offset) = false := by
      refine List.any_eq_false.mpr fun chain present => ?_
      obtain ⟨place, placed, rfl⟩ := List.mem_map.mp present
      have bound := builtin_within placed
      rw [BuiltinDraft.records, Draft.totalSize_append, Draft.totalSize_singleton] at bound
      have positive := (RuleDraft.unconditional (.verdict place.2.policy)).size_pos
      rw [Draft.spans_builtinChain]
      omega
    simp [Record.isOutside, unspanned]
  rw [List.filter_append, spanned, free, List.nil_append]

theorem plain_images (valid : table.Valid) {rules : List RuleDraft} (known : ∀ rule ∈ rules, rule ∈ table.records)
    (admitted : ∀ rule ∈ rules, rule.target.Admitted (table.chains.map ChainDraft.name)) (offset : Nat) :
    ∀ record ∈ Draft.images table.startOf offset rules, record.errorName = .ok none := by
  intro record member
  obtain ⟨rule, inside, place, rfl⟩ := Draft.mem_images member
  obtain ⟨name, data, content, other⟩ := RuleDraft.content_of_admitted (admitted rule inside) valid.resolved
  exact content.image_errorName (valid.laid rule (known rule inside)).short other

theorem passage_valid (valid : table.Valid) : ∀ passage ∈ table.passages, passage.Valid := by
  intro passage member
  obtain ⟨place, placed, rfl⟩ := List.mem_map.mp member
  have present := mem_placedChains placed
  have known := mem_records_of_chain present
  refine ⟨?_, ?_, ?_⟩
  · have short := (valid.laid _ (known place.2.head (by simp [ChainDraft.records]))).short
    exact (RuleDraft.content_of_head rfl (valid.short place.2 present)).image_head rfl short
      (valid.short place.2 present) (valid.plain place.2 present)
  · exact valid.plain_images (fun rule inside => known rule (by simp [ChainDraft.records, inside]))
      (valid.userRules place.2 present) _
  · show ((RuleDraft.unconditional (.verdict Verdict.ret)).image table.startOf _).Returns
    exact RuleDraft.image_verdict rfl (by decide)

theorem spanned (valid : table.Valid) (size : Nat) :
    (Hook.all.filter (·.isIn (table.info size).validHooks)).mapM (Chain.builtin (table.info size) table.body) =
      .ok table.builtinChains := by
  rw [valid_hooks valid.hooks, List.mapM_map]
  exact mapM_of_ok fun place placed => valid.builtin_eq placed size

theorem anatomy (valid : table.Valid) :
    Anatomy table.builtInfo table.builtEntries table.body table.closing table.builtinChains table.passages := by
  have count : table.body.length + 1 = table.records.length := by
    have same := congrArg List.length table.images_records
    rw [Draft.length_images, List.length_append, List.length_singleton] at same
    exact same.symm
  refine ⟨valid.consecutive, ?_, ?_, ?_, table.closing_named, valid.spanned _, valid.passage_valid, valid.outside⟩
  · rw [builtEntries, images_records]
  · rw [← images_records]
    exact Draft.images_announced valid.laid
  · have bound := Draft.length_le_totalSize table.records
    have total := valid.total
    obtain ⟨entryCount, _, _⟩ := announce_unchanged _ table.placedBuiltins
    rw [builtInfo, info_eq, entryCount, UInt32.toNat_ofNat', count]
    omega

theorem accepted (valid : table.Valid) :
    table.build = .ok (table.builtInfo, table.builtEntries) ∧
      Table.ofSnapshot table.builtInfo table.builtEntries = .ok table.built :=
  ⟨build_eq valid.laid, Table.ofSnapshot_eq_ok.mpr ⟨_, _, _, _, valid.anatomy, rfl⟩⟩

end Valid

end TableDraft

end FilterWatch
