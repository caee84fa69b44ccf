import FilterWatch.Proofs.Accounts
import FilterWatch.Proofs.JumpResolution
import FilterWatch.Proofs.RoundTrip

/-! What the name of a user chain does to what is reported. A goto is always told as such. A jump
is told by the name alone, and so is the way of the packets, so that names which mean something by
themselves are set apart. -/

namespace FilterWatch
open Proofs.Outcomes

/-- Whether a record's standard target leads to an offset. -/
def Record.jumpsTo (record : Record) (offset : Nat) : Bool :=
  match record.target with
  | .ok (some target) =>
    target.isStandard && match target.verdict with
      | .ok code => code.toInt = offset
      | .error _ => false
  | _ => false

theorem Record.jumpsTo_iff {record : Record} {offset : Nat} :
    record.jumpsTo offset = true ↔ ∃ target code, record.target = .ok (some target) ∧
      target.isStandard = true ∧ target.verdict = .ok code ∧ code.toInt = offset := by
  unfold jumpsTo
  split
  next target found =>
    cases decoded : target.verdict with
    | ok code => simp [found, decoded]
    | error error => simp [found, decoded]
  next other =>
    constructor
    · simp
    · rintro ⟨target, _, found, _⟩
      exact absurd found (other target)

/-- Names that mean nothing by themselves, to whoever classifies the verdict of a rule. -/
def Action.Unclaimed (name : String) : Prop :=
  name ≠ "" ∧ sameName name "ACCEPT" = false ∧ sameName name "REJECT" = false ∧ sameName name "DROP" = false

theorem Action.ofVerdict_goto (name : String) (offset : Nat) :
    ofVerdict (some name) true offset = .ok (some (.other s!"goto {name}")) := rfl

theorem Action.ofVerdict_unclaimed {name : String} (unclaimed : Unclaimed name) (offset : Nat) :
    ofVerdict (some name) false offset = .ok (some (.other name)) := by
  obtain ⟨nonempty, accept, reject, drop⟩ := unclaimed
  simp [ofVerdict, nonempty, ofName, accept, reject, drop]

theorem Record.isGoto_total (record : Record) : ∃ goto, record.isGoto = .ok goto := by
  have inside : 82 < record.bytes.length :=
    Nat.lt_of_lt_of_le (by decide : 82 < headerSize) (Nat.le_trans record.header_le record.target_le)
  obtain ⟨flags, read⟩ := Bytes.byteAt_within inside
  exact ⟨_, by rw [isGoto, read]; rfl⟩

namespace Table

variable {info : TableInfo} {entries : Bytes} {table : Table} {chain owner : Chain} {rule : Rule}

theorem target_of_jump (accepted : ofSnapshot info entries = .ok table) (member : chain ∈ table.chains)
    (user : chain.kind = .user) (owned : owner ∈ table.chains) (inside : rule ∈ table.rulesOf owner)
    (leads : rule.record.jumpsTo chain.start = true) : rule.target = .ok (some chain.name) := by
  obtain ⟨body, closing, builtin, passages, anatomy, rfl⟩ := ofSnapshot_eq_ok.mp accepted
  obtain ⟨passage, present, rfl⟩ := anatomy.passage_of_user member user
  obtain ⟨same, _, record⟩ := mem_rulesOf inside
  obtain ⟨target, code, found, standard, decoded, destination⟩ := Record.jumpsTo_iff.mp leads
  rw [Rule.target, same]
  exact anatomy.verdictName_jump present (anatomy.mem_body_of_rule owned record) found standard decoded destination

end Table

namespace Collector
open Attempt

variable {config : CollectorConfig} {table : Table} {chain : Chain} {rule : Rule}

theorem action_of_collectRule {event : FirewallRule} (collected : (collectRule config rule).value = .ok (some event)) :
    ∃ action, rule.action = .ok action ∧ event.action = (reportedAction action).1 ∧
      event.target = (reportedAction action).2 ∧ event.direction = direction? rule.chain.name := by
  rw [collectRule, value_bind, value_caught, ok_bind] at collected
  cases read : rule.decode.value with
  | ok decoded =>
    obtain ⟨named, _, action⟩ := Rule.decode_sound read
    simp only [read, value_pure] at collected
    cases collected
    exact ⟨_, action, rfl, rfl, congrArg direction? named⟩
  | error error =>
    simp only [read] at collected
    cases strict : config.abortOnError <;> simp only [strict] at collected <;> cases collected

/-- All events of a chain tell the way of packets that the chain's name stands for. -/
theorem direction_of_collectChain {events : List FirewallRule}
    (collected : (collectChain config table chain).value = .ok events) :
    ∀ event ∈ events, event.direction = direction? chain.name := by
  intro event member
  cases wanted : config.reports chain.name with
  | false =>
    rw [(collectChain_unreported wanted).1] at collected
    cases collected
    cases member
  | true =>
    simp only [collectChain, wanted, Bool.not_true, Bool.false_eq_true, if_false, value_bind, value_mapM] at collected
    obtain ⟨rules, read, collected⟩ := bind_eq_ok.mp collected
    obtain ⟨policy, _, collected⟩ := bind_eq_ok.mp collected
    cases collected
    rcases List.mem_append.mp member with kept | last
    · obtain ⟨_, present, same⟩ := List.mem_filterMap.mp kept
      cases same
      obtain ⟨rule, inside, yields⟩ := mem_of_mapM read present
      obtain ⟨_, _, _, _, direction⟩ := action_of_collectRule yields
      rw [direction, (Table.mem_rulesOf inside).2.1]
    · obtain ⟨_, _, rfl⟩ := List.mem_map.mp last
      rfl

def wayOf : Hook → Option Direction
  | .input => some .incoming
  | .output => some .outgoing
  | .preRouting | .forward | .postRouting => none

theorem direction?_chainName (hook : Hook) : direction? hook.chainName = wayOf hook := by
  cases hook <;> decide

end Collector

/-- Whoever reports a rule, reports it as neither allowing nor denying, with a text of its own. -/
def Rule.ToldAs (rule : Rule) (text : String) : Prop :=
  rule.action = .ok (some (.other text)) ∧
    ∀ config event, (Collector.collectRule config rule).value = .ok (some event) →
      event.action = some .other ∧ event.target = some text

theorem Rule.toldAs_of_action {rule : Rule} {text : String} (acts : rule.action = .ok (some (.other text))) :
    rule.ToldAs text := by
  refine ⟨acts, fun config event collected => ?_⟩
  obtain ⟨action, found, told, target, _⟩ := Collector.action_of_collectRule collected
  rw [acts] at found
  cases found
  exact ⟨told, target⟩

namespace Table

theorem hooked_chainName {info : TableInfo} {entries : Bytes} {table : Table} {chain : Chain} {hook : Hook}
    (accepted : ofSnapshot info entries = .ok table) (member : chain ∈ table.chains)
    (hooked : chain.hook? = some hook) : chain.name = hook.chainName := by
  obtain ⟨body, closing, builtin, passages, anatomy, rfl⟩ := ofSnapshot_eq_ok.mp accepted
  rcases Anatomy.mem_listed.mp member with present | ⟨passage, _, rfl⟩
  · obtain ⟨own, _, built⟩ := anatomy.mem_builtin present
    obtain ⟨policy, _, _, _, rfl⟩ := Chain.builtin_eq_ok built
    cases hooked
    rfl
  · cases hooked

/-- How user chains are told apart from what is built in: by a goto always, by a jump and in the
events of their own rules as far as their names mean nothing by themselves. -/
theorem user_chains_told {info : TableInfo} {entries : Bytes} {table : Table}
    (accepted : ofSnapshot info entries = .ok table) :
    (∀ chain ∈ table.chains, chain.kind = .user → ∀ owner ∈ table.chains, ∀ rule ∈ table.rulesOf owner,
      rule.record.jumpsTo chain.start = true →
      ∃ goto, rule.record.isGoto = .ok goto ∧ (goto = true → rule.ToldAs s!"goto {chain.name}") ∧
        (goto = false → Action.Unclaimed chain.name → rule.ToldAs chain.name)) ∧
    (∀ chain ∈ table.chains, chain.kind = .user → chain.name ≠ "INPUT" → chain.name ≠ "OUTPUT" →
      ∀ config events, (Collector.collectChain config table chain).value = .ok events →
        ∀ event ∈ events, event.direction = none) ∧
    (∀ chain ∈ table.chains, ∀ hook, chain.hook? = some hook →
      ∀ config events, (Collector.collectChain config table chain).value = .ok events →
        ∀ event ∈ events, event.direction = Collector.wayOf hook) := by
  refine ⟨?_, ?_, ?_⟩
  · intro chain member user owner owned rule inside leads
    have named := target_of_jump accepted member user owned inside leads
    obtain ⟨goto, read⟩ := rule.record.isGoto_total
    have action : rule.action = Action.ofVerdict (some chain.name) goto rule.record.offset := by
      rw [Rule.action, named, ok_bind, read, ok_bind]
    refine ⟨goto, read, ?_, ?_⟩
    · rintro rfl
      exact Rule.toldAs_of_action (action.trans (Action.ofVerdict_goto _ _))
    · rintro rfl unclaimed
      exact Rule.toldAs_of_action (action.trans (Action.ofVerdict_unclaimed unclaimed _))
  · intro chain member user input output config events collected event present
    rw [Collector.direction_of_collectChain collected event present, Collector.direction?, if_neg input,
      if_neg output]
  · intro chain member hook hooked config events collected event present
    rw [Collector.direction_of_collectChain collected event present, hooked_chainName accepted member hooked,
      Collector.direction?_chainName]

/-- The rules that lead to user chains, each with the chain. -/
def jumps (table : Table) : List (Rule × Chain) :=
  (table.chains.flatMap table.rulesOf).flatMap fun rule =>
    (table.chains.filter fun chain => chain.kind = .user && rule.record.jumpsTo chain.start).map (rule, ·)

theorem mem_jumps {table : Table} {rule : Rule} {chain : Chain} :
    (rule, chain) ∈ table.jumps ↔ (∃ owner ∈ table.chains, rule ∈ table.rulesOf owner) ∧
      chain ∈ table.chains ∧ chain.kind = .user ∧ rule.record.jumpsTo chain.start = true := by
  simp [jumps]

end Table

namespace TableDraft

/-- A table in which user chains have the names of verdicts, of a hook's chain, and none at all. -/
def ambiguous : TableDraft where
  name := "filter"
  builtins := [{
    hook := .input, policy := Verdict.drop
    rules := [.unconditional (.jump "accept"), .unconditional (.jump "Drop"), .unconditional (.jump ""),
      .unconditional (.goto "accept"), .unconditional (.jump "web")] }]
  chains := [
    { name := "", rules := [] }, { name := "Drop", rules := [] },
    { name := "OUTPUT", rules := [.unconditional (.verdict Verdict.accept)] },
    { name := "accept", rules := [] }, { name := "web", rules := [] }]

theorem ambiguous_valid : ambiguous.Valid := by decide

theorem ambiguous_built : ambiguous.built =
    ⟨ambiguous.builtInfo, ambiguous.builtinChains ++ ambiguous.passages.map Passage.chain⟩ :=
  built_of_sorted (by decide +kernel)

/-- Jumps to user chains that are told as allowing, as denying and as doing nothing, and a user
chain whose rules are told as seeing outgoing packets. -/
theorem ambiguous_told : Table.ofSnapshot ambiguous.builtInfo ambiguous.builtEntries = .ok ambiguous.built ∧
    (ambiguous.built.jumps.map fun (rule, chain) => (chain.name, rule.action)) = [
      ("accept", .ok (some .allow)), ("Drop", .ok (some .deny)), ("", .ok none),
      ("accept", .ok (some (.other "goto accept"))), ("web", .ok (some (.other "web")))] ∧
    ((ambiguous.built.chains.filter (·.kind = .user)).map fun chain =>
      (chain.name, (Collector.collectChain .default ambiguous.built chain).value.toOption.map
        (·.map FirewallRule.direction))) = [
      ("", some []), ("Drop", some []), ("OUTPUT", some [some .outgoing]), ("accept", some []), ("web", some [])] := by
  refine ⟨ambiguous_valid.accepted.2, ?_, ?_⟩
  · rw [ambiguous_built]
    decide +kernel
  · rw [ambiguous_built]
    decide +kernel

theorem user_chains_told_ambiguous : Table.ofSnapshot ambiguous.builtInfo ambiguous.builtEntries = .ok ambiguous.built ∧
    ∃ rule chain, (rule, chain) ∈ ambiguous.built.jumps ∧ chain.name = "web" ∧ rule.ToldAs "web" := by
  have accepted := ambiguous_valid.accepted.2
  obtain ⟨told, _, _⟩ := Table.user_chains_told accepted
  have present : ∃ jump ∈ ambiguous.built.jumps, jump.2.name = "web" ∧ jump.1.record.isGoto = .ok false := by
    rw [ambiguous_built]
    decide +kernel
  have unclaimed : Action.Unclaimed "web" := ⟨by decide, by decide, by decide, by decide⟩
  obtain ⟨⟨rule, chain⟩, jump, named, plain⟩ := present
  obtain ⟨⟨owner, owned, inside⟩, member, user, leads⟩ := Table.mem_jumps.mp jump
  obtain ⟨goto, read, _, reported⟩ := told chain member user owner owned rule inside leads
  have same := Except.ok.inj (read.symm.trans plain)
  exact ⟨accepted, rule, chain, jump, named, named ▸ reported same (named ▸ unclaimed)⟩

end TableDraft

end FilterWatch
