import FilterWatch.Proofs.Strictness
import Mathlib.Data.List.Forall2

/-! A pass over some chains only. It tells of them what a pass over all chains does, and nothing that
the other chains hold makes a difference to it. -/

namespace FilterWatch
open Proofs.Outcomes

/-- The same pass over the chains of these names, or over all of them where none is named. -/
def CollectorConfig.over (config : CollectorConfig) (names : List String) : CollectorConfig :=
  { config with chains := names }

/-- Chains that no one can tell apart who does not look into the records of chains without one of these
names. -/
structure Chain.AgreeOn (names : List String) (first second : Chain) : Prop where
  name : first.name = second.name
  start : first.start = second.start
  hook : first.hook? = second.hook?
  same : first.name ∈ names → first = second

def Table.AgreeOn (names : List String) (first second : Table) : Prop :=
  List.Forall₂ (Chain.AgreeOn names) first.chains second.chains

namespace Table

variable {first second : Table} {names : List String}

/-- A jump leads to a chain of the same name in both. -/
theorem AgreeOn.chainAt? (agree : AgreeOn names first second) (offset : Nat) :
    (first.chainAt? offset).map Chain.name = (second.chainAt? offset).map Chain.name := by
  rw [AgreeOn] at agree
  rw [Table.chainAt?, Table.chainAt?]
  generalize first.chains = chains at agree ⊢
  generalize second.chains = others at agree ⊢
  induction agree with
  | nil => rfl
  | cons head _ ih =>
    rw [List.find?_cons, List.find?_cons, head.hook, head.start]
    split
    · exact congrArg some head.name
    · exact ih

theorem AgreeOn.verdictName (agree : AgreeOn names first second) (record : Record) :
    first.verdictName record = second.verdictName record := by
  have jumps := agree.chainAt?
  simp only [Table.verdictName]
  cases record.target with
  | error error => rfl
  | ok target =>
  cases target with
  | none => rfl
  | some target =>
    simp only [ok_bind]
    split
    · rfl
    cases target.verdict with
    | error error => rfl
    | ok code =>
      simp only [ok_bind]
      have same := jumps code.toInt.toNat
      generalize first.chainAt? code.toInt.toNat = found at same ⊢
      generalize second.chainAt? code.toInt.toNat = other at same ⊢
      rcases found with _ | found <;> rcases other with _ | other
      · rfl
      · cases same
      · cases same
      · have named : found.name = other.name := Option.some.inj same
        simp only [named]

theorem AgreeOn.policy (agree : AgreeOn names first second) (chain : Chain) :
    first.policy chain = second.policy chain := by
  simp only [Table.policy, agree.verdictName]

theorem AgreeOn.decode (agree : AgreeOn names first second) (chain : Chain) (index : Nat) (record : Record) :
    Rule.decode ⟨first, chain, index, record⟩ = Rule.decode ⟨second, chain, index, record⟩ := by
  have action : Rule.action ⟨first, chain, index, record⟩ = Rule.action ⟨second, chain, index, record⟩ := by
    simp only [Rule.action, Rule.target, agree.verdictName]
  rw [Rule.decode, action]
  rfl

end Table

namespace Collector
open Attempt

variable {config : CollectorConfig} {names : List String}

theorem reports_over (named : names ≠ []) (name : String) : (config.over names).reports name = true ↔ name ∈ names := by
  simp [CollectorConfig.reports, CollectorConfig.over, named]

theorem collectChain_agree {first second : Table} {chain other : Chain} (named : names ≠ [])
    (agree : first.AgreeOn names second) (alike : chain.AgreeOn names other) :
    collectChain (config.over names) first chain = collectChain (config.over names) second other := by
  cases wanted : (config.over names).reports chain.name with
  | false => simp only [collectChain, ← alike.name, wanted, Bool.not_false, if_true]
  | true =>
    cases alike.same ((reports_over named _).mp wanted)
    have rules : (first.rulesOf chain).mapM (collectRule (config.over names)) =
        (second.rulesOf chain).mapM (collectRule (config.over names)) := by
      rw [Table.rulesOf, Table.rulesOf, List.mapM_map, List.mapM_map]
      refine congrArg (List.mapM · chain.rules.zipIdx) (funext fun place => ?_)
      simp only [Function.comp, collectRule, agree.decode]
    rw [collectChain, rules, agree.policy]
    rfl

private theorem mapM_of_forall₂ [Monad m] [LawfulMonad m] {related : α → β → Prop} {f : α → m γ} {g : β → m γ}
    (each : ∀ item other, related item other → f item = g other) {items : List α} {others : List β}
    (pairs : List.Forall₂ related items others) : items.mapM f = others.mapM g := by
  induction pairs with
  | nil => rfl
  | cons pair _ ih => rw [List.mapM_cons, List.mapM_cons, each _ _ pair, ih]

theorem collectTable_agree {first second : Table} (named : names ≠ []) (agree : first.AgreeOn names second) :
    collectTable (config.over names) first = collectTable (config.over names) second := by
  have chains : first.chains.mapM (collectChain (config.over names) first) =
      second.chains.mapM (collectChain (config.over names) second) :=
    mapM_of_forall₂ (fun _ _ alike => collectChain_agree named agree alike) agree
  rw [collectTable, chains]
  rfl

variable {table : Table} {chain : Chain}

/-- Any pass is one of the two that differ in what they do about rules that cannot be read. -/
theorem strict_or_lenient (config : CollectorConfig) :
    config.abortOnError = true ∧ config.strict = config ∨ config.abortOnError = false ∧ config.lenient = config := by
  cases abort : config.abortOnError with
  | true => exact .inl ⟨rfl, by rw [CollectorConfig.strict, ← abort]⟩
  | false => exact .inr ⟨rfl, by rw [CollectorConfig.lenient, ← abort]⟩

theorem collectChain_ok (wanted : config.reports chain.name = true) :
    (∃ events, (collectChain config table chain).value = .ok events) ↔
      (config.abortOnError = true → ∀ rule ∈ table.rulesOf chain, rule.Readable) ∧
        ∃ policy, table.policy chain = .ok policy := by
  rcases strict_or_lenient config with ⟨strict, same⟩ | ⟨lenient, same⟩
  · rw [← same, collectChain_strict_ok wanted, Complete]
    simp [same, strict]
  · rw [← same, collectChain_lenient_ok wanted]
    simp [same, lenient]

theorem events_of_collectTable {events : List FirewallRule}
    (collected : (collectTable config table).value = .ok events) :
    events = (reported config table).flatMap (chainEvents table) := by
  have leniently : (collectTable config.lenient table).value = .ok events := by
    rcases strict_or_lenient config with ⟨_, same⟩ | ⟨_, same⟩
    · exact (collectTable_strict_ok.mp (same ▸ collected)).1
    · rw [same, collected]
  have known := (collectTable_of_decided rfl (decided_of_collectTable_lenient leniently)).1
  exact Except.ok.inj (leniently.symm.trans known)

theorem reported_over (named : names ≠ []) :
    reported (config.over names) table = table.chains.filter (·.name ∈ names) :=
  List.filter_congr fun chain _ => by rw [Bool.eq_iff_iff, reports_over named, decide_eq_true_iff]

theorem collectTable_over_ok (named : names ≠ []) :
    (∃ events, (collectTable (config.over names) table).value = .ok events) ↔
      ∀ chain ∈ table.chains, chain.name ∈ names →
        (config.abortOnError = true → ∀ rule ∈ table.rulesOf chain, rule.Readable) ∧
          ∃ policy, table.policy chain = .ok policy := by
  rw [collectTable_ok, reported_over named]
  simp only [List.mem_filter, decide_eq_true_iff, and_imp]
  exact forall₃_congr fun chain _ wanted => collectChain_ok ((reports_over named _).mpr wanted)

theorem collectTable_over_eq (named : names ≠ []) {events : List FirewallRule} :
    (collectTable (config.over names) table).value = .ok events ↔
      (∀ chain ∈ table.chains, chain.name ∈ names →
        (config.abortOnError = true → ∀ rule ∈ table.rulesOf chain, rule.Readable) ∧
          ∃ policy, table.policy chain = .ok policy) ∧
      events = (table.chains.filter (·.name ∈ names)).flatMap (chainEvents table) := by
  rw [← collectTable_over_ok named, ← reported_over named]
  constructor
  · exact fun collected => ⟨⟨events, collected⟩, events_of_collectTable collected⟩
  · rintro ⟨⟨chosen, told⟩, rfl⟩
    rw [told, events_of_collectTable told]

/-- The chains of these names tell of themselves what they tell among all chains. -/
theorem collectTable_over (named : names ≠ []) {events : List FirewallRule}
    (collected : (collectTable (config.over []) table).value = .ok events) :
    (collectTable (config.over names) table).value = .ok (events.filter (·.chain ∈ names)) := by
  have every : reported (config.over []) table = table.chains := List.filter_eq_self.mpr fun _ _ => rfl
  have each := collectTable_ok.mp ⟨events, collected⟩
  refine (collectTable_over_eq named).mpr ⟨fun chain member _ => ?_, ?_⟩
  · have wanted : (config.over []).reports chain.name = true := rfl
    exact (collectChain_ok wanted).mp (each chain (every ▸ member))
  · rw [events_of_collectTable collected, every, List.filter_flatMap]
    refine flatMap_chosen (fun chain : Chain => decide (chain.name ∈ names)) ?_ ?_
    · intro chain _ wanted
      exact List.filter_eq_self.mpr fun event inside => chain_of_chainEvents table chain event inside ▸ wanted
    · intro chain _ unwanted
      refine List.filter_eq_nil_iff.mpr fun event inside => ?_
      rw [chain_of_chainEvents table chain event inside, unwanted]
      exact Bool.false_ne_true

/-- A pass over some chains against one over all, and against the same pass where the other chains hold
something else. It tells of its chains what the pass over all tells of them, if that tells anything. No
other chain has a part in what it comes to and logs, and so none can make it fail. -/
theorem collect_over {names : List String} (named : names ≠ []) (config : CollectorConfig) :
    (∀ source events, (collect source (config.over [])).value = .ok (some events) →
      (collect source (config.over names)).value = .ok (some (events.filter (·.chain ∈ names)))) ∧
    (∀ (source other : TableSource) first second, (source config.table).trace = (other config.table).trace →
      (source config.table).value = .ok (some first) → (other config.table).value = .ok (some second) →
      first.AgreeOn names second → collect source (config.over names) = collect other (config.over names)) ∧
    ∀ (source : TableSource) table events, (source config.table).value = .ok (some table) →
      ((collect source (config.over names)).value = .ok (some events) ↔
        (∀ chain ∈ table.chains, chain.name ∈ names →
          (config.abortOnError = true → ∀ rule ∈ table.rulesOf chain, rule.Readable) ∧
            ∃ policy, table.policy chain = .ok policy) ∧
        events = (table.chains.filter (·.name ∈ names)).flatMap (chainEvents table)) := by
  refine ⟨fun source events collected => ?_, fun source other first second log read otherRead agree => ?_,
    fun source table events answered => ?_⟩
  · obtain ⟨table, answered, told⟩ := collect_some.mp collected
    exact collect_some.mpr ⟨table, answered, collectTable_over named told⟩
  · exact collect_of_alike log read otherRead (collectTable_agree named agree)
  · rw [(collect_of_table (config.over names) answered).1, ← collectTable_over_eq named, map_eq_ok]
    simp only [Option.some.injEq, exists_eq_right]

/-- Two chains, of which the first has these rules and this policy. -/
def besideOutput (rules : List Record) (policy : Record) : Table where
  info := partlyReadable.info
  chains := [
    { name := "INPUT", kind := .builtin .input policy, start := 0, rules },
    { name := "OUTPUT", kind := .builtin .output (partlyReadable.standard 456 0xFF), start := 304,
      rules := [partlyReadable.standard 304 0xFE] }]

/-- What the first of two chains holds ends a pass over both, and goes unseen in a pass over the second. -/
theorem collect_over_besideOutput :
    let unreadable := besideOutput [partlyReadable.standard 0 0] (partlyReadable.standard 152 0)
    (collect (fun _ => pure (some unreadable)) (CollectorConfig.default.strict.over [])).value.isOk = false ∧
    (collect (fun _ => pure (some unreadable))
        (CollectorConfig.default.strict.over ["OUTPUT", "nowhere", "OUTPUT"])).value = .ok (some [
      { FirewallRule.bare "OUTPUT" 0 with direction := some .outgoing, action := some .allow },
      { FirewallRule.bare "OUTPUT" 1 with direction := some .outgoing, action := some .deny }]) := by
  intro unreadable
  let readable := besideOutput [] (partlyReadable.standard 152 0xFE)
  have named : ["OUTPUT", "nowhere", "OUTPUT"] ≠ [] := by decide
  obtain ⟨chosen, unseen, _⟩ := collect_over named CollectorConfig.default.strict
  have every : (collect (fun _ => pure (some readable)) (CollectorConfig.default.strict.over [])).value = .ok (some [
      { FirewallRule.bare "INPUT" 0 with direction := some .incoming, action := some .allow },
      { FirewallRule.bare "OUTPUT" 0 with direction := some .outgoing, action := some .allow },
      { FirewallRule.bare "OUTPUT" 1 with direction := some .outgoing, action := some .deny }]) := by decide +kernel
  have agree : unreadable.AgreeOn ["OUTPUT", "nowhere", "OUTPUT"] readable :=
    .cons ⟨rfl, rfl, rfl, fun own => absurd own (by decide)⟩ (.cons ⟨rfl, rfl, rfl, fun _ => rfl⟩ .nil)
  have ended :
      (collect (fun _ => pure (some unreadable)) (CollectorConfig.default.strict.over [])).value.isOk = false := by
    decide +kernel
  have quiet : ∀ table, Attempt.trace (pure (some table) : Attempt SnapshotError (Option Table)) = [] := fun _ => rfl
  refine ⟨ended, ?_⟩
  rw [unseen _ (fun _ => pure (some readable)) unreadable readable ((quiet _).trans (quiet _).symm) rfl rfl agree]
  exact chosen _ _ every

end Collector

end FilterWatch
