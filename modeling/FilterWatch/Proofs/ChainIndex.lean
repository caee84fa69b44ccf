import FilterWatch.Proofs.JumpResolution
import FilterWatch.Proofs.RecordRoles
import Std.Data.HashMap

/-! Jumps by an index of the user chains, made once after the chains have been sorted. No two user
chains of an accepted table start at one offset, so the index leads to the chain that was opened
there, and looking a chain up in it finds what a search through all chains finds. -/

namespace FilterWatch
open Proofs.Outcomes

/-- Whether the standard target of a record has a verdict. -/
def Record.Decides (record : Record) (code : Int32) : Prop :=
  ∃ target, record.target = .ok (some target) ∧ target.isStandard = true ∧ target.verdict = .ok code

theorem Chain.hook?_isNone {chain : Chain} : chain.hook?.isNone = true ↔ chain.kind = .user := by
  cases same : chain.kind <;> simp [hook?, same]

namespace Table

variable {table : Table}

def userListed (table : Table) : List Chain := table.chains.filter (·.kind = .user)

/-- The starts of the user chains, each with the place of its chain in the table. -/
def starts (table : Table) : List (Nat × Nat) :=
  table.chains.zipIdx.filterMap fun (chain, index) => if chain.kind = .user then some (chain.start, index) else none

/-- The place of the user chain that starts at an offset. -/
def heads (table : Table) : Std.HashMap Nat Nat := .ofList table.starts

theorem mem_userListed {chain : Chain} : chain ∈ table.userListed ↔ chain ∈ table.chains ∧ chain.kind = .user := by
  simp [userListed]

theorem mem_starts {offset index : Nat} : (offset, index) ∈ table.starts ↔
    ∃ chain, table.chains[index]? = some chain ∧ chain.kind = .user ∧ chain.start = offset := by
  simp only [starts, List.mem_filterMap, Prod.exists, List.mem_zipIdx_iff_getElem?, Option.ite_none_right_eq_some,
    Option.some.injEq, Prod.mk.injEq]
  constructor
  · rintro ⟨chain, place, found, user, start, rfl⟩
    exact ⟨chain, found, user, start⟩
  · rintro ⟨chain, found, user, start⟩
    exact ⟨chain, index, found, user, start, rfl⟩

theorem starts_fst : table.starts.map Prod.fst = table.userListed.map Chain.start := by
  have shifted : ∀ (chains : List Chain) (first : Nat),
      ((chains.zipIdx first).filterMap fun (chain, index) =>
        if chain.kind = .user then some (chain.start, index) else none).map Prod.fst =
        (chains.filter (·.kind = .user)).map Chain.start := by
    intro chains
    induction chains with
    | nil => intro first; rfl
    | cons chain rest ih =>
      intro first
      by_cases user : chain.kind = .user <;> simp [user, ih]
  exact shifted table.chains 0

section Distinct

variable (distinct : (table.userListed.map Chain.start).Nodup)
include distinct

theorem heads_eq_some {offset index : Nat} : table.heads[offset]? = some index ↔ (offset, index) ∈ table.starts := by
  have keys : table.starts.Pairwise fun left right => (left.1 == right.1) = false := by
    rw [← starts_fst] at distinct
    exact (List.pairwise_map.mp distinct).imp fun differ => beq_eq_false_iff_ne.mpr differ
  have kept : ∀ place, (offset, place) ∈ table.starts → table.heads[offset]? = some place :=
    fun place member => Std.HashMap.getElem?_ofList_of_mem (beq_self_eq_true offset) keys member
  -- What is found has a key among the starts, and there is one entry for each.
  refine ⟨fun found => ?_, kept index⟩
  by_cases known : offset ∈ table.starts.map Prod.fst
  · obtain ⟨⟨_, place⟩, member, rfl⟩ := List.mem_map.mp known
    rwa [← Option.some.inj ((kept place member).symm.trans found)]
  · have missing : table.heads[offset]? = none :=
      Std.HashMap.getElem?_ofList_of_contains_eq_false (by simpa using known)
    cases missing.symm.trans found

theorem chainAt?_eq_heads (offset : Nat) :
    table.chainAt? offset = (table.heads[offset]?).bind (table.chains[·]?) := by
  cases found : table.chainAt? offset with
  | some chain =>
    have fits := List.find?_some found
    simp only [Bool.and_eq_true, decide_eq_true_eq, Chain.hook?_isNone] at fits
    obtain ⟨index, here⟩ := List.mem_iff_getElem?.mp (List.mem_of_find?_eq_some found)
    rw [(heads_eq_some distinct).mpr (mem_starts.mpr ⟨chain, here, fits⟩)]
    exact here.symm
  | none =>
    cases indexed : table.heads[offset]? with
    | none => rfl
    | some index =>
      obtain ⟨chain, here, user, start⟩ := mem_starts.mp ((heads_eq_some distinct).mp indexed)
      have missing := List.find?_eq_none.mp found chain (List.mem_of_getElem? here)
      simp [Chain.hook?_isNone.mpr user, start] at missing

end Distinct

end Table

namespace Anatomy

variable {info : TableInfo} {entries : Bytes} {body : List Record} {closing : Record}
  {builtin : List Chain} {passages : List Passage}

theorem userListed_perm (anatomy : Anatomy info entries body closing builtin passages) :
    (Table.userListed ⟨info, Passage.listed builtin passages⟩).Perm (passages.map Passage.chain) := by
  have none : builtin.filter (·.kind = .user) = [] := by
    refine List.filter_eq_nil_iff.mpr fun chain member user => ?_
    have hooked := anatomy.hook_of_builtin member
    simp [Chain.hook?, of_decide_eq_true user] at hooked
  have all : ((passages.map Passage.chain).mergeSort Table.nameLe).filter (·.kind = .user) =
      (passages.map Passage.chain).mergeSort Table.nameLe := by
    refine List.filter_eq_self.mpr fun chain member => ?_
    obtain ⟨passage, _, rfl⟩ := List.mem_map.mp (List.mem_mergeSort.mp member)
    rfl
  rw [Table.userListed, Passage.listed, List.filter_append, none, all, List.nil_append]
  exact List.mergeSort_perm _ _

theorem nodup_starts (anatomy : Anatomy info entries body closing builtin passages) :
    ((Table.userListed ⟨info, Passage.listed builtin passages⟩).map Chain.start).Nodup := by
  refine (anatomy.userListed_perm.map Chain.start).nodup_iff.mpr ?_
  rw [List.map_map]
  exact anatomy.nodup_heads

theorem mem_userListed (anatomy : Anatomy info entries body closing builtin passages) {chain : Chain} :
    chain ∈ Table.userListed ⟨info, Passage.listed builtin passages⟩ ↔ ∃ passage ∈ passages, passage.chain = chain := by
  rw [anatomy.userListed_perm.mem_iff, List.mem_map]

/-- The place that the index has for an offset is that of the chain whose head ends there. -/
theorem heads_eq_some (anatomy : Anatomy info entries body closing builtin passages) {offset index : Nat} :
    (Table.heads ⟨info, Passage.listed builtin passages⟩)[offset]? = some index ↔
      ∃ passage ∈ passages, passage.head.next = offset ∧
        (Passage.listed builtin passages)[index]? = some passage.chain := by
  rw [Table.heads_eq_some anatomy.nodup_starts, Table.mem_starts]
  constructor
  · rintro ⟨chain, here, user, start⟩
    obtain ⟨passage, member, rfl⟩ := anatomy.passage_of_user (List.mem_of_getElem? here) user
    exact ⟨passage, member, start, here⟩
  · rintro ⟨passage, member, start, here⟩
    exact ⟨passage.chain, here, rfl, start⟩

/-- A jump to where no user chain starts has no name. -/
theorem verdictName_astray (anatomy : Anatomy info entries body closing builtin passages) {record : Record}
    {code : Int32} (decides : record.Decides code) (jump : 0 ≤ code.toInt) (onward : code.toInt ≠ record.next)
    (astray : ∀ passage ∈ passages, code.toInt ≠ passage.head.next) :
    Table.verdictName ⟨info, Passage.listed builtin passages⟩ record = .error (.invalidJump code) := by
  obtain ⟨target, found, standard, decoded⟩ := decides
  have unknown : Table.chainAt? ⟨info, Passage.listed builtin passages⟩ code.toInt.toNat = none := by
    rw [Table.chainAt?_eq_heads anatomy.nodup_starts]
    cases indexed : (Table.heads ⟨info, Passage.listed builtin passages⟩)[code.toInt.toNat]? with
    | none => rfl
    | some index =>
      obtain ⟨passage, member, start, _⟩ := anatomy.heads_eq_some.mp indexed
      have apart := astray passage member
      omega
  rw [Table.verdictName_destination found standard decoded jump, if_neg (by omega), unknown]

theorem mem_body_of_decides (anatomy : Anatomy info entries body closing builtin passages) {record : Record}
    (member : record ∈ body ++ [closing]) {code : Int32} (decides : record.Decides code) : record ∈ body := by
  rcases List.mem_append.mp member with inside | last
  · exact inside
  · -- The record that closes the table has an error target.
    obtain ⟨target, found, standard, _⟩ := decides
    have named := anatomy.closing
    rw [← List.mem_singleton.mp last, Record.errorName_of_standard found standard] at named
    cases named

end Anatomy

/-- How standard verdicts lead to the user chains of an accepted snapshot. -/
theorem Table.jumps_resolved {info : TableInfo} {entries : Bytes} {table : Table}
    (accepted : ofSnapshot info entries = .ok table) :
    ∃ body closing passages, Division info entries body closing passages ∧
      (∀ chain, chain ∈ table.userListed ↔ ∃ passage ∈ passages, passage.chain = chain) ∧
      (table.userListed.map Chain.start).Nodup ∧
      (∀ offset index, table.heads[offset]? = some index ↔
        ∃ passage ∈ passages, passage.head.next = offset ∧ table.chains[index]? = some passage.chain) ∧
      (∀ offset, table.chainAt? offset = (table.heads[offset]?).bind (table.chains[·]?)) ∧
      ∀ record ∈ body ++ [closing], ∀ code, record.Decides code → 0 ≤ code.toInt →
        if code.toInt = record.next then
          (∀ chain ∈ table.userListed, chain.start ≠ record.next) ∧ table.verdictName record = .ok (some "")
        else
          (∀ chain ∈ table.userListed, code.toInt = chain.start → table.verdictName record = .ok (some chain.name)) ∧
          ((∀ chain ∈ table.userListed, code.toInt ≠ chain.start) →
            table.verdictName record = .error (.invalidJump code)) := by
  obtain ⟨body, closing, builtin, passages, anatomy, rfl⟩ := ofSnapshot_eq_ok.mp accepted
  have listed : ∀ passage ∈ passages, passage.chain ∈ userListed ⟨info, Passage.listed builtin passages⟩ :=
    fun passage member => anatomy.mem_userListed.mpr ⟨passage, member, rfl⟩
  refine ⟨body, closing, passages, anatomy.division, fun _ => anatomy.mem_userListed, anatomy.nodup_starts,
    fun _ _ => anatomy.heads_eq_some, chainAt?_eq_heads anatomy.nodup_starts, ?_⟩
  intro record member code decides jump
  have inside := anatomy.mem_body_of_decides member decides
  obtain ⟨target, found, standard, decoded⟩ := decides
  split
  next onward =>
    refine ⟨fun chain user => ?_, ?_⟩
    · obtain ⟨passage, present, rfl⟩ := anatomy.mem_userListed.mp user
      exact anatomy.next_ne_start present inside found standard
    · rw [verdictName_destination found standard decoded jump, if_pos (by omega)]
  next onward =>
    refine ⟨fun chain user leads => ?_, fun astray => ?_⟩
    · obtain ⟨passage, present, rfl⟩ := anatomy.mem_userListed.mp user
      exact anatomy.verdictName_jump present inside found standard decoded leads
    · exact anatomy.verdictName_astray ⟨target, found, standard, decoded⟩ jump onward
        fun passage present => astray _ (listed passage present)

namespace TableDraft

/-- The index of a table whose user chains were not drafted in the order of their names. -/
theorem jumps_resolved_sample : Table.ofSnapshot sample.builtInfo sample.builtEntries = .ok sample.built ∧
    ∃ chain ∈ sample.built.userListed, chain.name = "b" ∧
      ∃ index : Nat, sample.built.heads[chain.start]? = some index ∧ sample.built.chains[index]? = some chain := by
  have valid : sample.Valid := by decide
  obtain ⟨body, closing, passages, _, listed, _, designated, _⟩ := Table.jumps_resolved valid.accepted.2
  obtain ⟨passage, present, named⟩ : ∃ passage ∈ sample.passages, passage.name = "b" := by decide +kernel
  have user : passage.chain ∈ sample.built.userListed := valid.anatomy.mem_userListed.mpr ⟨passage, present, rfl⟩
  obtain ⟨other, opened, same⟩ := (listed _).mp user
  obtain ⟨index, here⟩ := List.mem_iff_getElem?.mp (Table.mem_userListed.mp user).1
  have start : other.head.next = passage.chain.start := congrArg Chain.start same
  exact ⟨valid.accepted.2, passage.chain, user, named, index,
    (designated _ _).mpr ⟨other, opened, start, same ▸ here⟩, here⟩

end TableDraft

end FilterWatch
