import FilterWatch.Proofs.Accounts

/-! A pass that needs every rule against one that skips those that it cannot read. Where no rule
stops the first, both come to the same; where one does, it is the first that cannot be read. -/

namespace FilterWatch
open Proofs.Outcomes

namespace CollectorConfig

/-- The same pass, ended by a rule that cannot be read. -/
def strict (config : CollectorConfig) : CollectorConfig := { config with abortOnError := true }

/-- The same pass, without the rules that cannot be read. -/
def lenient (config : CollectorConfig) : CollectorConfig := { config with abortOnError := false }

end CollectorConfig

namespace Rule

def Readable (rule : Rule) : Prop := ∃ decoded, rule.decode.value = .ok decoded

/-- Of some rules, the first that cannot be read. -/
def FirstUnreadable (rules : List Rule) (rule : Rule) (fault : LayoutError) : Prop :=
  ∃ front back, rules = front ++ rule :: back ∧ (∀ earlier ∈ front, earlier.Readable) ∧
    rule.decode.value = .error fault

theorem FirstUnreadable.mem {rules : List Rule} {rule : Rule} {fault : LayoutError}
    (first : FirstUnreadable rules rule fault) : rule ∈ rules := by
  obtain ⟨front, back, rfl, _⟩ := first
  simp

end Rule

namespace Collector
open Attempt

variable {config : CollectorConfig} {table : Table} {chain : Chain} {rule : Rule} {fault : LayoutError}
  {error : CollectError}

/-- What reading a rule comes to for a pass that needs it. -/
def required (rule : Rule) : Except CollectError DecodedRule :=
  rule.decode.value.mapError (.rule rule.chain.name rule.index)

theorem collectRule_strict (config : CollectorConfig) (rule : Rule) :
    (collectRule config.strict rule).value = required rule >>= fun _ => (collectRule config.lenient rule).value := by
  simp only [collectRule, value_bind, value_caught, ok_bind, required]
  cases rule.decode.value <;> rfl

theorem required_rules_ok :
    (∃ all, (table.rulesOf chain).mapM required = .ok all) ↔ ∀ rule ∈ table.rulesOf chain, rule.Readable := by
  constructor
  · rintro ⟨all, read⟩ rule member
    obtain ⟨decoded, _, done⟩ := exists_of_mapM read member
    exact ⟨decoded, mapError_eq_ok.mp done⟩
  · intro readable
    exact mapM_total fun rule member => (readable rule member).imp fun _ read => mapError_eq_ok.mpr read

theorem required_rules_error : (table.rulesOf chain).mapM required = .error error ↔
    ∃ rule fault, Rule.FirstUnreadable (table.rulesOf chain) rule fault ∧ error = .rule chain.name rule.index fault := by
  rw [mapM_eq_error]
  constructor
  · rintro ⟨front, rule, back, split, earlier, failed⟩
    obtain ⟨fault, unread, rfl⟩ := mapError_eq_error.mp failed
    have first : Rule.FirstUnreadable (table.rulesOf chain) rule fault :=
      ⟨front, back, split, fun other member => (earlier other member).imp fun _ => mapError_eq_ok.mp, unread⟩
    exact ⟨rule, fault, first, (Table.mem_rulesOf first.mem).2.1 ▸ rfl⟩
  · rintro ⟨rule, fault, first, rfl⟩
    have failed : required rule = .error (.rule chain.name rule.index fault) := by
      rw [← (Table.mem_rulesOf first.mem).2.1]
      obtain ⟨_, _, _, _, unread⟩ := first
      exact mapError_eq_error.mpr ⟨fault, unread, rfl⟩
    obtain ⟨front, back, split, earlier, _⟩ := first
    exact ⟨front, rule, back, split, fun other member => (earlier other member).imp fun _ => mapError_eq_ok.mpr, failed⟩

theorem reports_of_mem (member : chain ∈ reported config table) : config.reports chain.name = true :=
  (List.mem_filter.mp member).2

/-- A chain comes to the same for both passes, behind the rules of it that one of them needs. -/
theorem collectChain_strict (wanted : config.reports chain.name = true) :
    (collectChain config.strict table chain).value =
      (table.rulesOf chain).mapM required >>= fun _ => (collectChain config.lenient table chain).value := by
  have kept : config.strict.reports chain.name = true := wanted
  have same : config.lenient.reports chain.name = true := wanted
  have total : ∀ rule ∈ table.rulesOf chain, ∃ event, (collectRule config.lenient rule).value = .ok event :=
    fun rule _ => ⟨_, collectRule_value rfl rule⟩
  simp only [collectChain, kept, same, Bool.not_true, Bool.false_eq_true, if_false, value_bind, value_mapM,
    collectRule_strict, mapM_behind total]
  cases (table.rulesOf chain).mapM required <;> rfl

theorem collectChain_lenient (wanted : config.reports chain.name = true) :
    (collectChain config.lenient table chain).value =
      ((table.policy chain).mapError (.chain config.table)).map fun _ => chainEvents table chain := by
  have same : config.lenient.reports chain.name = true := wanted
  exact (collectChain_reported rfl same).1

theorem collectChain_lenient_ok (wanted : config.reports chain.name = true) :
    (∃ events, (collectChain config.lenient table chain).value = .ok events) ↔
      ∃ policy, table.policy chain = .ok policy := by
  rw [collectChain_lenient wanted]
  cases table.policy chain <;> simp [mapError_ok, mapError_error, Except.map]

theorem collectChain_lenient_error (wanted : config.reports chain.name = true) :
    (collectChain config.lenient table chain).value = .error error ↔
      ∃ fault, table.policy chain = .error fault ∧ .chain config.table fault = error := by
  rw [collectChain_lenient wanted, map_eq_error, mapError_eq_error]

/-- A chain that a pass reports in whole: its rules can be read, and so can its policy. -/
def Complete (table : Table) (chain : Chain) : Prop :=
  (∀ rule ∈ table.rulesOf chain, rule.Readable) ∧ ∃ policy, table.policy chain = .ok policy

theorem collectChain_strict_ok (wanted : config.reports chain.name = true) :
    (∃ events, (collectChain config.strict table chain).value = .ok events) ↔ Complete table chain := by
  simp only [collectChain_strict wanted, bind_eq_ok]
  rw [exists_comm]
  simp only [exists_and_left, exists_and_right, required_rules_ok, collectChain_lenient_ok wanted, Complete]

theorem collectChain_strict_error (wanted : config.reports chain.name = true) :
    (collectChain config.strict table chain).value = .error error ↔
      (∃ rule fault, Rule.FirstUnreadable (table.rulesOf chain) rule fault ∧
        error = .rule chain.name rule.index fault) ∨
      (∀ rule ∈ table.rulesOf chain, rule.Readable) ∧ (collectChain config.lenient table chain).value = .error error := by
  rw [collectChain_strict wanted, bind_eq_error, required_rules_error, ← required_rules_ok, exists_and_right]

theorem collectChain_strict_rule (wanted : config.reports chain.name = true) {name : String} {priority : Nat} :
    (collectChain config.strict table chain).value = .error (.rule name priority fault) ↔
      ∃ rule, Rule.FirstUnreadable (table.rulesOf chain) rule fault ∧ chain.name = name ∧ rule.index = priority := by
  rw [collectChain_strict_error wanted]
  constructor
  · rintro (⟨rule, fault, first, same⟩ | ⟨_, failed⟩)
    · cases same
      exact ⟨rule, first, rfl, rfl⟩
    · obtain ⟨_, _, same⟩ := (collectChain_lenient_error wanted).mp failed
      cases same
  · rintro ⟨rule, first, rfl, rfl⟩
    exact .inl ⟨rule, fault, first, rfl⟩

theorem ruleWarnings_eq_nil : ruleWarnings table chain = [] ↔ ∀ rule ∈ table.rulesOf chain, rule.Readable := by
  rw [ruleWarnings, List.filterMap_eq_nil_iff, Table.rulesOf, List.forall_mem_map]
  refine forall₂_congr ?_
  rintro ⟨record, place⟩ _
  rw [Rule.Readable, ← reading]
  simp only
  cases reading table chain record place <;> simp

theorem collectTable_error : (collectTable config table).value = .error error ↔
    ∃ before chain after, reported config table = before ++ chain :: after ∧
      (∀ earlier ∈ before, ∃ events, (collectChain config table earlier).value = .ok events) ∧
      (collectChain config table chain).value = .error error := by
  rw [collectTable_value, map_eq_error, mapM_eq_error]

theorem collectTable_ok : (∃ events, (collectTable config table).value = .ok events) ↔
    ∀ chain ∈ reported config table, ∃ part, (collectChain config table chain).value = .ok part := by
  rw [collectTable_value]
  constructor
  · rintro ⟨events, collected⟩ chain member
    obtain ⟨parts, read, _⟩ := map_eq_ok.mp collected
    obtain ⟨part, _, done⟩ := exists_of_mapM read member
    exact ⟨part, done⟩
  · intro each
    obtain ⟨parts, read⟩ := mapM_total each
    exact ⟨parts.flatten, map_eq_ok.mpr ⟨parts, read, rfl⟩⟩

theorem collectTable_strict_of_readable
    (readable : ∀ chain ∈ reported config table, ∀ rule ∈ table.rulesOf chain, rule.Readable) :
    (collectTable config.strict table).value = (collectTable config.lenient table).value := by
  have each : ∀ chain ∈ reported config table,
      (collectChain config.strict table chain).value = (collectChain config.lenient table chain).value := by
    intro chain member
    obtain ⟨all, read⟩ := required_rules_ok.mpr (readable chain member)
    rw [collectChain_strict (reports_of_mem member), read, ok_bind]
  rw [collectTable_value, collectTable_value]
  exact congrArg _ (mapM_congr each)

theorem decided_of_collectTable_lenient {events : List FirewallRule}
    (collected : (collectTable config.lenient table).value = .ok events) :
    ∀ chain ∈ reported config.lenient table, ∃ policy, table.policy chain = .ok policy := fun chain member =>
  (collectChain_lenient_ok (reports_of_mem member)).mp (collectTable_ok.mp ⟨_, collected⟩ chain member)

theorem collectTable_lenient_quiet {events : List FirewallRule}
    (collected : (collectTable config.lenient table).value = .ok events) :
    (collectTable config.lenient table).warnings = [] ↔
      ∀ chain ∈ reported config table, ∀ rule ∈ table.rulesOf chain, rule.Readable := by
  rw [(collectTable_of_decided rfl (decided_of_collectTable_lenient collected)).2, List.flatMap_eq_nil_iff]
  exact forall₂_congr fun _ _ => ruleWarnings_eq_nil

theorem collectTable_strict_ok {events : List FirewallRule} :
    (collectTable config.strict table).value = .ok events ↔
      (collectTable config.lenient table).value = .ok events ∧ (collectTable config.lenient table).warnings = [] := by
  constructor
  · intro collected
    have readable : ∀ chain ∈ reported config table, ∀ rule ∈ table.rulesOf chain, rule.Readable :=
      fun chain member =>
        ((collectChain_strict_ok (reports_of_mem member)).mp (collectTable_ok.mp ⟨_, collected⟩ chain member)).1
    rw [collectTable_strict_of_readable readable] at collected
    exact ⟨collected, (collectTable_lenient_quiet collected).mpr readable⟩
  · rintro ⟨collected, quiet⟩
    rw [collectTable_strict_of_readable ((collectTable_lenient_quiet collected).mp quiet), collected]

theorem reports_of_split {before after : List Chain} (split : reported config table = before ++ chain :: after) :
    ∀ owner ∈ before ++ [chain], config.reports owner.name = true := by
  intro owner member
  have inside : owner ∈ before ++ chain :: after := List.append_cons before chain after ▸ List.mem_append_left _ member
  exact reports_of_mem (split ▸ inside)

/-- The pass that needs every rule ends at the first that cannot be read, unless the policy of an earlier
chain ends it. -/
theorem collectTable_strict_rule {name : String} {priority : Nat} :
    (collectTable config.strict table).value = .error (.rule name priority fault) ↔
      ∃ before chain after, reported config table = before ++ chain :: after ∧
        (∀ earlier ∈ before, Complete table earlier) ∧
        ∃ rule, Rule.FirstUnreadable (table.rulesOf chain) rule fault ∧ chain.name = name ∧ rule.index = priority := by
  rw [collectTable_error]
  refine exists₃_congr fun before chain after => and_congr_right fun split => ?_
  have wanted := reports_of_split split
  refine and_congr (forall₂_congr fun earlier member => ?_) ?_
  · exact collectChain_strict_ok (wanted earlier (by simp [member]))
  · exact collectChain_strict_rule (wanted chain (by simp))

theorem collectTable_lenient_chain {name : String}
    (failed : (collectTable config.lenient table).value = .error (.chain name fault)) :
    (collectTable config.strict table).value = .error (.chain name fault) ∨
      ∃ before chain after, reported config table = before ++ chain :: after ∧
        (∀ earlier ∈ before, ∃ policy, table.policy earlier = .ok policy) ∧ table.policy chain = .error fault ∧
        ∃ owner ∈ before ++ [chain], ∃ rule unread, Rule.FirstUnreadable (table.rulesOf owner) rule unread ∧
          (collectTable config.strict table).value = .error (.rule owner.name rule.index unread) := by
  obtain ⟨before, chain, after, split, done, ended⟩ := collectTable_error.mp failed
  have wanted := reports_of_split split
  have decided : ∀ earlier ∈ before, ∃ policy, table.policy earlier = .ok policy := fun earlier member =>
    (collectChain_lenient_ok (wanted earlier (by simp [member]))).mp (done earlier member)
  obtain ⟨undecided, policy, same⟩ := (collectChain_lenient_error (wanted chain (by simp))).mp ended
  cases same
  -- The pass that needs every rule does not come past the chain either; where it ends decides how.
  have stopped : ∃ error, (collectChain config.strict table chain).value = .error error := by
    cases strictly : (collectChain config.strict table chain).value with
    | error error => exact ⟨error, rfl⟩
    | ok part =>
      obtain ⟨_, _, found⟩ := (collectChain_strict_ok (wanted chain (by simp))).mp ⟨part, strictly⟩
      cases policy.symm.trans found
  obtain ⟨_, stopped⟩ := stopped
  obtain ⟨owner, member, error, stops, read⟩ :=
    mapM_of_error (fun owner => (collectChain config.strict table owner).value) stopped before after
  have ends : (collectTable config.strict table).value = .error error := by
    rw [collectTable_value, map_eq_error, ← read]
    exact congrArg (List.mapM _) split
  rcases (collectChain_strict_error (wanted owner member)).mp stops with ⟨rule, unread, first, rfl⟩ | ⟨_, lenient⟩
  · exact .inr ⟨before, chain, after, split, decided, policy, owner, member, rule, unread, first, ends⟩
  · obtain ⟨_, refused, rfl⟩ := (collectChain_lenient_error (wanted owner member)).mp lenient
    rcases List.mem_append.mp member with inside | last
    · obtain ⟨_, found⟩ := decided owner inside
      cases refused.symm.trans found
    · cases List.mem_singleton.mp last
      cases refused.symm.trans policy
      exact .inl ends

theorem collectTable_lenient_not_rule {name : String} {priority : Nat} :
    (collectTable config.lenient table).value ≠ .error (.rule name priority fault) := by
  intro failed
  obtain ⟨before, chain, after, split, _, ended⟩ := collectTable_error.mp failed
  have member : chain ∈ reported config table := split ▸ by simp
  obtain ⟨_, _, same⟩ := (collectChain_lenient_error (reports_of_mem member)).mp ended
  cases same

theorem collect_strict_ok {source : TableSource} {result : Option (List FirewallRule)} :
    (collect source config.strict).value = .ok result ↔
      (collect source config.lenient).value = .ok result ∧
        (collect source config.lenient).warnings = (source config.table).warnings := by
  by_cases there : ∃ table, (source config.table).value = .ok (some table)
  · obtain ⟨table, answered⟩ := there
    obtain ⟨strictly, _⟩ := collect_of_table config.strict answered
    obtain ⟨leniently, warned⟩ := collect_of_table config.lenient answered
    have quiet : (collect source config.lenient).warnings = (source config.table).warnings ↔
        (collectTable config.lenient table).warnings = [] := by
      rw [warned]
      exact List.append_right_eq_self
    simp only [quiet, strictly, leniently, map_eq_ok, collectTable_strict_ok]
    tauto
  · have missing : ∀ table, (source config.table).value ≠ .ok (some table) :=
      fun table answered => there ⟨table, answered⟩
    obtain ⟨strictly, _⟩ := collect_without_table config.strict missing
    obtain ⟨leniently, warned⟩ := collect_without_table config.lenient missing
    rw [strictly, leniently]
    exact ⟨fun done => ⟨done, warned⟩, And.left⟩

/-- The two passes over one source. The one that skips rules never ends because of a rule. The other
comes to a result just where the first comes to the same and skips nothing. It ends because of a rule
just where that rule is the first that cannot be read, and no earlier chain has a policy that cannot.
If a policy ends the first, then the same policy ends the other, or a rule does that comes before. -/
theorem collect_strict_lenient (source : TableSource) (config : CollectorConfig) :
    (∀ name priority fault, (collect source config.lenient).value ≠ .error (.rule name priority fault)) ∧
    (∀ result, (collect source config.strict).value = .ok result ↔
      (collect source config.lenient).value = .ok result ∧
        (collect source config.lenient).warnings = (source config.table).warnings) ∧
    (∀ name priority fault, (collect source config.strict).value = .error (.rule name priority fault) ↔
      ∃ table, (source config.table).value = .ok (some table) ∧
        ∃ before chain after, reported config table = before ++ chain :: after ∧
          (∀ earlier ∈ before, Complete table earlier) ∧
          ∃ rule, Rule.FirstUnreadable (table.rulesOf chain) rule fault ∧ chain.name = name ∧ rule.index = priority) ∧
    ∀ name fault, (collect source config.lenient).value = .error (.chain name fault) →
      (collect source config.strict).value = .error (.chain name fault) ∨
        ∃ table, (source config.table).value = .ok (some table) ∧
          ∃ before chain after, reported config table = before ++ chain :: after ∧
            (∀ earlier ∈ before, ∃ policy, table.policy earlier = .ok policy) ∧ table.policy chain = .error fault ∧
            ∃ owner ∈ before ++ [chain], ∃ rule unread, Rule.FirstUnreadable (table.rulesOf owner) rule unread ∧
              (collect source config.strict).value = .error (.rule owner.name rule.index unread) := by
  refine ⟨fun name priority fault failed => ?_, fun _ => collect_strict_ok, fun name priority fault => ?_,
    fun name fault failed => ?_⟩
  · obtain ⟨table, _, stopped⟩ := (collect_error (by simp)).mp failed
    exact collectTable_lenient_not_rule stopped
  · rw [collect_error (by simp)]
    exact exists_congr fun table => and_congr_right fun _ => collectTable_strict_rule
  · obtain ⟨table, answered, stopped⟩ := (collect_error (by simp)).mp failed
    simp only [(collect_of_table config.strict answered).1, map_eq_error]
    exact (collectTable_lenient_chain stopped).imp_right fun earlier => ⟨table, answered, earlier⟩

theorem collect_strict_partlyReadable :
    (collect (fun _ => pure (some partlyReadable)) CollectorConfig.default.strict).value =
      .error (.rule "INPUT" 0 (.missingTarget 0)) ∧
    (collect (fun _ => pure (some partlyReadable)) CollectorConfig.default.lenient).value.isOk = true ∧
    (collect (fun _ => pure (some partlyReadable)) CollectorConfig.default.lenient).warnings ≠ [] := by
  obtain ⟨_, same, stops, _⟩ := collect_strict_lenient (fun _ => pure (some partlyReadable)) .default
  have first : ∃ chain after, reported .default partlyReadable = [] ++ chain :: after ∧ chain.name = "INPUT" ∧
      ∃ rule back, partlyReadable.rulesOf chain = [] ++ rule :: back ∧ rule.index = 0 ∧
        rule.decode.value = .error (.missingTarget 0) :=
    ⟨_, _, rfl, rfl, _, _, rfl, rfl, by decide +kernel⟩
  obtain ⟨chain, after, split, name, rule, back, front, index, unread⟩ := first
  have ended := (stops "INPUT" 0 (.missingTarget 0)).mpr
    ⟨partlyReadable, rfl, [], chain, after, split, by simp, rule, ⟨[], back, front, by simp, unread⟩, name, index⟩
  have collected : (collect (fun _ => pure (some partlyReadable)) CollectorConfig.default.lenient).value.isOk = true := by
    decide +kernel
  refine ⟨ended, collected, fun quiet => ?_⟩
  cases done : (collect (fun _ => pure (some partlyReadable)) CollectorConfig.default.lenient).value with
  | error error =>
    rw [done] at collected
    cases collected
  | ok result => cases ended.symm.trans ((same result).mpr ⟨done, quiet⟩)

end Collector

end FilterWatch
