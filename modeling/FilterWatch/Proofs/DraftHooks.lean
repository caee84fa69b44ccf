import FilterWatch.Proofs.DraftPlaces

/-! What a drafted table announces of its built-in chains: for every hook that has one, where the
chain starts and where its policy stands; and the hooks of the chains, by number. -/

namespace FilterWatch

theorem PerHook.get_set (values : PerHook α) (hook other : Hook) (value : α) :
    (values.set hook value).get other = if other = hook then value else values.get other := by
  cases other <;> rfl

theorem Hook.isIn_or (hooks : UInt32) (hook other : Hook) :
    hook.isIn (hooks ||| other.bit) = (hook.isIn hooks || decide (hook = other)) := by
  have distribute : (hooks ||| other.bit) &&& hook.bit = hooks &&& hook.bit ||| other.bit &&& hook.bit := by
    apply UInt32.toBitVec_inj.mp
    ext index
    simp [Bool.and_or_distrib_right]
  have shared : (other.bit &&& hook.bit = 0) ↔ hook ≠ other := by
    cases hook <;> cases other <;> decide
  have split : (hooks ||| other.bit) &&& hook.bit = 0 ↔ hooks &&& hook.bit = 0 ∧ hook ≠ other := by
    rw [distribute, UInt32.or_eq_zero_iff, shared]
  unfold isIn
  by_cases there : hooks &&& hook.bit = 0 <;> by_cases same : hook = other <;>
    simp_all

namespace TableDraft

/-- Where each placed chain's hook points, after the chain has been announced. -/
def announce (info : TableInfo) (placed : Nat × BuiltinDraft) : TableInfo :=
  { info with
    validHooks := info.validHooks ||| placed.2.hook.bit
    hookEntry := info.hookEntry.set placed.2.hook (UInt32.ofNat placed.1)
    underflow := info.underflow.set placed.2.hook (UInt32.ofNat (placed.1 + Draft.totalSize placed.2.rules)) }

theorem info_eq (table : TableDraft) (size : Nat) :
    table.info size = table.placedBuiltins.foldl announce {
      name := table.name, validHooks := 0, hookEntry := .fill 0, underflow := .fill 0
      entryCount := UInt32.ofNat table.records.length, size := UInt32.ofNat size } := rfl

theorem announce_unchanged (info : TableInfo) (chains : List (Nat × BuiltinDraft)) :
    (chains.foldl announce info).entryCount = info.entryCount ∧
      (chains.foldl announce info).size = info.size ∧ (chains.foldl announce info).name = info.name := by
  induction chains generalizing info with
  | nil => exact ⟨rfl, rfl, rfl⟩
  | cons chain rest ih => exact ih (announce info chain)

theorem announce_isIn (info : TableInfo) (chains : List (Nat × BuiltinDraft)) (hook : Hook) :
    hook.isIn (chains.foldl announce info).validHooks =
      (hook.isIn info.validHooks || (chains.map fun placed => placed.2.hook).contains hook) := by
  induction chains generalizing info with
  | nil => simp
  | cons chain rest ih =>
    rw [List.foldl_cons, ih, announce, Hook.isIn_or, List.map_cons, List.contains_cons, Bool.or_assoc]
    rfl

theorem announce_other (info : TableInfo) {chains : List (Nat × BuiltinDraft)} {hook : Hook}
    (other : hook ∉ chains.map fun placed => placed.2.hook) :
    (chains.foldl announce info).hookEntry.get hook = info.hookEntry.get hook ∧
      (chains.foldl announce info).underflow.get hook = info.underflow.get hook := by
  induction chains generalizing info with
  | nil => exact ⟨rfl, rfl⟩
  | cons chain rest ih =>
    rw [List.map_cons, List.mem_cons, not_or] at other
    have later := ih (announce info chain) other.2
    simp only [announce, PerHook.get_set, if_neg other.1] at later
    exact later

theorem announce_get (info : TableInfo) {chains : List (Nat × BuiltinDraft)}
    (distinct : (chains.map fun placed => placed.2.hook).Nodup) {placed : Nat × BuiltinDraft}
    (member : placed ∈ chains) :
    (chains.foldl announce info).hookEntry.get placed.2.hook = UInt32.ofNat placed.1 ∧
      (chains.foldl announce info).underflow.get placed.2.hook =
        UInt32.ofNat (placed.1 + Draft.totalSize placed.2.rules) := by
  induction chains generalizing info with
  | nil => cases member
  | cons chain rest ih =>
    rw [List.map_cons, List.nodup_cons] at distinct
    rw [List.foldl_cons]
    rcases List.mem_cons.mp member with rfl | later
    · have kept := announce_other (announce info placed) distinct.1
      simp only [announce, PerHook.get_set, if_true] at kept
      exact kept
    · exact ih (announce info chain) distinct.2 later

/-- The hooks among items of distinct hooks: at most one item for each. -/
private theorem filter_hook {items : List BuiltinDraft} (distinct : (items.map BuiltinDraft.hook).Nodup)
    (hook : Hook) : (items.filter (·.hook = hook)).map BuiltinDraft.hook =
      if hook ∈ items.map BuiltinDraft.hook then [hook] else [] := by
  induction items with
  | nil => rfl
  | cons item rest ih =>
    rw [List.map_cons, List.nodup_cons] at distinct
    have others := ih distinct.2
    by_cases same : item.hook = hook
    · subst same
      rw [if_neg distinct.1] at others
      simp [others]
    · rw [List.filter_cons, if_neg (by simpa using same), others]
      simp [Ne.symm same]

private theorem flatMap_present (hooks present : List Hook) :
    (hooks.flatMap fun hook => if hook ∈ present then [hook] else []) = hooks.filter (present.contains ·) := by
  induction hooks with
  | nil => rfl
  | cons hook rest ih =>
    rw [List.flatMap_cons, ih, List.filter_cons]
    by_cases inside : hook ∈ present <;> simp [inside]

theorem sortedBuiltins_hooks {table : TableDraft} (distinct : (table.builtins.map BuiltinDraft.hook).Nodup) :
    table.sortedBuiltins.map BuiltinDraft.hook =
      Hook.all.filter ((table.builtins.map BuiltinDraft.hook).contains ·) := by
  rw [← flatMap_present, sortedBuiltins, List.map_flatMap]
  simp only [filter_hook distinct]

theorem mem_sortedBuiltins {table : TableDraft} {chain : BuiltinDraft} :
    chain ∈ table.sortedBuiltins ↔ chain ∈ table.builtins := by
  have all : chain.hook ∈ Hook.all := by cases chain.hook <;> decide
  simp [sortedBuiltins, all]

theorem placedBuiltins_hooks (table : TableDraft) :
    (table.placedBuiltins.map fun placed => placed.2.hook) = table.sortedBuiltins.map BuiltinDraft.hook := by
  have same := congrArg (List.map BuiltinDraft.hook) (Draft.placed_map_snd
    (fun chain : BuiltinDraft => Draft.totalSize chain.records) 0 table.sortedBuiltins)
  rwa [List.map_map] at same

theorem valid_hooks {table : TableDraft} (distinct : (table.builtins.map BuiltinDraft.hook).Nodup) (size : Nat) :
    Hook.all.filter (·.isIn (table.info size).validHooks) =
      table.placedBuiltins.map fun placed => placed.2.hook := by
  rw [placedBuiltins_hooks, sortedBuiltins_hooks distinct]
  apply List.filter_congr
  intro hook _
  have empty : hook.isIn 0 = false := by cases hook <;> decide
  have listed : (table.sortedBuiltins.map BuiltinDraft.hook).contains hook =
      (table.builtins.map BuiltinDraft.hook).contains hook := by
    simp only [List.contains_eq_mem, List.mem_map, mem_sortedBuiltins]
  rw [info_eq, announce_isIn, placedBuiltins_hooks, listed, empty, Bool.false_or]

theorem nodup_placedBuiltins {table : TableDraft} (distinct : (table.builtins.map BuiltinDraft.hook).Nodup) :
    (table.placedBuiltins.map fun placed => placed.2.hook).Nodup := by
  rw [placedBuiltins_hooks, sortedBuiltins_hooks distinct]
  exact List.Nodup.sublist List.filter_sublist (by decide)

end TableDraft

end FilterWatch
