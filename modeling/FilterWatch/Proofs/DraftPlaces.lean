import FilterWatch.Draft.Table
import FilterWatch.Proofs.DraftRecords

/-! Where the records of a drafted table stand, and the starts of its user chains. -/

namespace FilterWatch

theorem RuleDraft.size_pos (rule : RuleDraft) : 0 < rule.size :=
  Nat.lt_of_lt_of_le (by decide : 0 < 112) (Nat.le_trans (Nat.le_add_right 112 _) (Nat.le_add_right _ _))

theorem RuleDraft.size_verdict (code : Int32) : (unconditional (.verdict code)).size = 152 := rfl

namespace Draft

theorem totalSize_nil : totalSize [] = 0 := rfl

private theorem totalSize_from (start : Nat) (records : List RuleDraft) :
    records.foldl (fun total record => total + record.size) start = start + totalSize records := by
  unfold totalSize
  induction records generalizing start with
  | nil => rfl
  | cons record rest ih =>
    simp only [List.foldl_cons]
    rw [ih, ih (0 + record.size)]
    omega

theorem totalSize_cons (record : RuleDraft) (rest : List RuleDraft) :
    totalSize (record :: rest) = record.size + totalSize rest := by
  have step := totalSize_from (0 + record.size) rest
  rw [Nat.zero_add] at step
  rw [totalSize, List.foldl_cons, Nat.zero_add, step]

theorem totalSize_append (first second : List RuleDraft) :
    totalSize (first ++ second) = totalSize first + totalSize second := by
  induction first with
  | nil => simp [totalSize_nil]
  | cons record rest ih => simp only [List.cons_append, totalSize_cons, ih, Nat.add_assoc]

theorem totalSize_singleton (record : RuleDraft) : totalSize [record] = record.size := by
  simp [totalSize_cons, totalSize_nil]

theorem length_le_totalSize (records : List RuleDraft) : records.length ≤ totalSize records := by
  induction records with
  | nil => exact Nat.zero_le _
  | cons record rest ih =>
    have positive := record.size_pos
    rw [totalSize_cons, List.length_cons]
    omega

theorem placed_map_snd (size : α → Nat) (offset : Nat) (items : List α) :
    (placed size offset items).map Prod.snd = items := by
  induction items generalizing offset with
  | nil => rfl
  | cons item rest ih => simp only [placed, List.map_cons, ih]

theorem mem_of_placed {size : α → Nat} {offset place : Nat} {item : α} {items : List α}
    (member : (place, item) ∈ placed size offset items) : item ∈ items := by
  rw [← placed_map_snd size offset items]
  exact List.mem_map.mpr ⟨_, member, rfl⟩

theorem placed_append (offset : Nat) (first second : List RuleDraft) :
    placed RuleDraft.size offset (first ++ second) =
      placed RuleDraft.size offset first ++ placed RuleDraft.size (offset + totalSize first) second := by
  induction first generalizing offset with
  | nil => simp [placed, totalSize_nil]
  | cons record rest ih => simp only [List.cons_append, placed, ih, totalSize_cons, Nat.add_assoc]

theorem placed_flatMap (records : α → List RuleDraft) (offset : Nat) (groups : List α) :
    placed RuleDraft.size offset (groups.flatMap records) =
      (placed (fun group => totalSize (records group)) offset groups).flatMap fun (place, group) =>
        placed RuleDraft.size place (records group) := by
  induction groups generalizing offset with
  | nil => rfl
  | cons group rest ih => simp only [List.flatMap_cons, placed_append, placed, ih]

/-- A placed group stands behind the records of the groups before it. -/
theorem split_placed (records : α → List RuleDraft) {offset place : Nat} {group : α} {groups : List α}
    (member : (place, group) ∈ placed (fun group => totalSize (records group)) offset groups) :
    ∃ before after, groups = before ++ group :: after ∧ place = offset + totalSize (before.flatMap records) := by
  induction groups generalizing offset with
  | nil => cases member
  | cons first rest ih =>
    rcases List.mem_cons.mp member with same | later
    · cases same
      exact ⟨[], rest, rfl, by simp [totalSize_nil]⟩
    · obtain ⟨before, after, rfl, rfl⟩ := ih later
      exact ⟨first :: before, after, rfl, by simp only [List.flatMap_cons, totalSize_append, Nat.add_assoc]⟩

end Draft

namespace TableDraft

theorem mem_placedChains {table : TableDraft} {offset : Nat} {chain : ChainDraft}
    (member : (offset, chain) ∈ table.placedChains) : chain ∈ table.chains := Draft.mem_of_placed member

theorem mem_placedBuiltins {table : TableDraft} {offset : Nat} {chain : BuiltinDraft}
    (member : (offset, chain) ∈ table.placedBuiltins) : chain ∈ table.builtins := by
  obtain ⟨hook, _, found⟩ := List.mem_flatMap.mp (Draft.mem_of_placed member)
  exact (List.mem_filter.mp found).1

theorem startOf_placed {table : TableDraft} (distinct : (table.chains.map ChainDraft.name).Nodup)
    {offset : Nat} {chain : ChainDraft} (member : (offset, chain) ∈ table.placedChains) :
    table.startOf chain.name = .ok (offset + chain.head.size) := by
  have keys : (table.placedChains.map fun placed => placed.2.name).Nodup := by
    have same := congrArg (List.map ChainDraft.name) (Draft.placed_map_snd
      (fun chain : ChainDraft => Draft.totalSize chain.records) (Draft.totalSize table.builtinRecords) table.chains)
    rw [List.map_map] at same
    exact same ▸ distinct
  unfold startOf
  split
  next start other found =>
    have inside := List.mem_reverse.mp (List.mem_of_find?_eq_some found)
    have named : other.name = chain.name := by simpa using List.find?_some found
    cases List.inj_on_of_nodup_map keys inside member named
    rfl
  next found => simpa using List.find?_eq_none.mp found (offset, chain) (List.mem_reverse.mpr member)

theorem exists_placed {table : TableDraft} {name : String} (named : name ∈ table.chains.map ChainDraft.name) :
    ∃ offset chain, (offset, chain) ∈ table.placedChains ∧ chain.name = name := by
  obtain ⟨chain, member, rfl⟩ := List.mem_map.mp named
  have placed : chain ∈ table.placedChains.map Prod.snd := by
    rw [placedChains, Draft.placed_map_snd]
    exact member
  obtain ⟨⟨offset, _⟩, inside, rfl⟩ := List.mem_map.mp placed
  exact ⟨offset, _, inside, rfl⟩

end TableDraft

end FilterWatch
