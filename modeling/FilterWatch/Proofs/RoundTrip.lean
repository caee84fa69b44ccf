import FilterWatch.Proofs.DraftAnatomy
import FilterWatch.Proofs.Walking

/-! Building a draft and walking over the result shows the draft again: the built-in chains by
hook, the user chains by name, and in each its own rules. -/

namespace FilterWatch
open Proofs.Outcomes

/-- Rules as they are to be shown, each with its place, its bytes there and the name it was given. -/
def Draft.listRules (startOf : String → Except DraftError Nat) (offset : Nat) (rules : List RuleDraft) :
    Except DraftError (List RuleView) :=
  (placed RuleDraft.size offset rules).mapM fun (place, rule) => do
    return { offset := place, bytes := ← rule.encode startOf place, target := rule.target.named }

def BuiltinDraft.listing (chain : BuiltinDraft) (startOf : String → Except DraftError Nat) (offset : Nat) :
    Except DraftError ChainView := do
  return {
    name := chain.hook.chainName
    hook := some chain.hook
    policy := (Verdict.meanings.lookup chain.policy).map Prod.snd
    rules := ← Draft.listRules startOf offset chain.rules }

def ChainDraft.listing (chain : ChainDraft) (startOf : String → Except DraftError Nat) (offset : Nat) :
    Except DraftError ChainView := do
  return {
    name := chain.name
    hook := none
    policy := none
    rules := ← Draft.listRules startOf (offset + chain.head.size) chain.rules }

/-- The chains of a draft as they are to be shown: the built-in ones by hook, the others by the
bytes of their names. -/
def TableDraft.listing (table : TableDraft) : Except DraftError (List ChainView) := do
  let byName (left right : Nat × ChainDraft) : Bool := Bytes.ofText left.2.name ≤ Bytes.ofText right.2.name
  let builtins ← table.placedBuiltins.mapM fun (offset, chain) => chain.listing table.startOf offset
  let chains ← (table.placedChains.mergeSort byName).mapM fun (offset, chain) => chain.listing table.startOf offset
  return builtins ++ chains

namespace TableDraft

variable {table : TableDraft}

namespace Valid

theorem next_small (valid : table.Valid) {record : Record} (inside : record ∈ table.body) :
    record.next < 2147483648 := by
  have laid : ∀ rule ∈ table.builtinRecords ++ table.chains.flatMap ChainDraft.records, rule.Laid table.startOf := by
    intro rule member
    exact valid.laid rule (List.mem_append_left _ member)
  have bound := (valid.body_consecutive.within inside).2
  rw [body, Draft.images_extent laid] at bound
  have small := valid.small
  omega

theorem verdictName_image (valid : table.Valid)
    {rule : RuleDraft} (known : rule ∈ table.records)
    (admitted : rule.target.Admitted (table.chains.map ChainDraft.name)) {offset : Nat}
    (inside : rule.image table.startOf offset ∈ table.body) :
    table.built.verdictName (rule.image table.startOf offset) = .ok rule.target.named := by
  have short := (valid.laid rule known).short
  -- A jump resolves to the passage that the named chain became.
  have jump : ∀ name ∈ table.chains.map ChainDraft.name,
      rule.target = .jump name ∨ rule.target = .goto name →
      table.built.verdictName (rule.image table.startOf offset) = .ok (some name) := by
    intro name named given
    obtain ⟨start, chain, placed, rfl⟩ := exists_placed named
    have starts := startOf_placed valid.names placed
    have member : Draft.passage table.startOf (start, chain) ∈ table.passages := List.mem_map.mpr ⟨_, placed, rfl⟩
    have head := valid.anatomy.mem_body_of_passage member (Passage.head_mem _)
    have headNext : (Draft.passage table.startOf (start, chain)).head.next = start + chain.head.size :=
      (valid.laid _ (mem_records_of_chain (mem_placedChains placed) chain.head (by simp [ChainDraft.records]))).image_next _
    have small := valid.next_small head
    rw [headNext] at small
    obtain ⟨target, found, standard, decoded⟩ := (RuleDraft.content_of_jump given starts).image_standard short
    exact valid.anatomy.verdictName_jump member inside found standard decoded
      ((RuleDraft.toInt_ofNat small).trans (by rw [headNext]))
  cases given : rule.target with
  | verdict code =>
    rw [given] at admitted
    obtain ⟨entry, meant, rfl⟩ := List.mem_map.mp admitted
    rw [RuleDraft.verdictName_verdict _ meant given short, TargetDraft.named, Verdict.lookup_meanings entry meant]
    rfl
  | jump chain =>
    rw [given] at admitted
    exact jump chain admitted (.inl given)
  | goto chain =>
    rw [given] at admitted
    exact jump chain admitted (.inr given)
  | «fallthrough» =>
    have small := valid.next_small inside
    rw [(valid.laid rule known).image_next] at small
    exact RuleDraft.verdictName_fallthrough _ given short small
  | extension name data => exact RuleDraft.verdictName_extension _ given (given ▸ admitted) short
  | head chain => exact (given ▸ admitted : (TargetDraft.head chain).Admitted _).elim

theorem rules_agree (valid : table.Valid)
    {rules : List RuleDraft} (known : ∀ rule ∈ rules, rule ∈ table.records)
    (admitted : ∀ rule ∈ rules, rule.target.Admitted (table.chains.map ChainDraft.name)) {offset : Nat}
    (inside : ∀ record ∈ Draft.images table.startOf offset rules, record ∈ table.body) {chain : Chain}
    (own : chain.rules = Draft.images table.startOf offset rules) :
    ∃ views, (table.built.rulesOf chain).mapM Rule.view = .ok views ∧
      Draft.listRules table.startOf offset rules = .ok views := by
  rw [Table.rulesOf_views, own, Draft.images, List.mapM_map]
  refine mapM_agree fun place member => ?_
  have rule := Draft.mem_of_placed member
  refine ⟨⟨place.1, (place.2.image table.startOf place.1).bytes, place.2.target.named⟩, ?_, ?_⟩
  · have name := valid.verdictName_image (known _ rule) (admitted _ rule)
      (inside _ (List.mem_map.mpr ⟨place, member, rfl⟩))
    simp only [Function.comp, Table.viewOf, name]
    rfl
  · simp only [(valid.laid _ (known _ rule)).encode]
    rfl

theorem policy_builtinChain (valid : table.Valid) {place : Nat × BuiltinDraft}
    (member : place ∈ table.placedBuiltins) :
    table.built.policy (Draft.builtinChain table.startOf place) =
      .ok ((Verdict.meanings.lookup place.2.policy).map Prod.snd) := by
  obtain ⟨entry, meant, same⟩ := List.mem_map.mp (valid.policies place.2 (mem_placedBuiltins member))
  obtain ⟨_, action, nonempty⟩ := Verdict.meanings_named entry meant
  have name : table.built.verdictName (Draft.policyImage table.startOf place) = .ok (some entry.2.1) :=
    RuleDraft.verdictName_verdict _ meant (congrArg TargetDraft.verdict same.symm)
      (by rw [RuleDraft.size_verdict]; decide)
  have policy : (Draft.builtinChain table.startOf place).policy? = some (Draft.policyImage table.startOf place) := rfl
  simp only [Table.policy, policy, name, bind, Except.bind, Action.ofVerdict, if_neg nonempty, action]
  rw [← same, Verdict.lookup_meanings entry meant]
  rfl

theorem builtin_agree (valid : table.Valid)
    {place : Nat × BuiltinDraft} (member : place ∈ table.placedBuiltins) :
    ∃ view, table.built.view (Draft.builtinChain table.startOf place) = .ok view ∧
      place.2.listing table.startOf place.1 = .ok view := by
  have present := mem_placedBuiltins member
  have known : ∀ rule ∈ place.2.rules, rule ∈ table.records :=
    fun rule inside => mem_records_of_builtin present rule (by simp [BuiltinDraft.records, inside])
  have inside : ∀ record ∈ Draft.images table.startOf place.1 place.2.rules, record ∈ table.body := by
    obtain ⟨before, after, _, parts⟩ := valid.split_body member
    intro record own
    rw [parts]
    simp [own]
  obtain ⟨views, shown, listed⟩ := valid.rules_agree known (valid.builtinRules _ present) inside
    (show (Draft.builtinChain table.startOf place).rules = _ from rfl)
  have policy := valid.policy_builtinChain member
  refine ⟨⟨place.2.hook.chainName, some place.2.hook, (Verdict.meanings.lookup place.2.policy).map Prod.snd, views⟩,
    ?_, ?_⟩
  · simp only [Table.view, shown, policy, bind, Except.bind]
    rfl
  · simp only [BuiltinDraft.listing, listed, bind, Except.bind]
    rfl

theorem user_agree (valid : table.Valid)
    {place : Nat × ChainDraft} (member : place ∈ table.placedChains) :
    ∃ view, table.built.view (Draft.passage table.startOf place).chain = .ok view ∧
      place.2.listing table.startOf place.1 = .ok view := by
  have present := mem_placedChains member
  have known : ∀ rule ∈ place.2.rules, rule ∈ table.records :=
    fun rule inside => mem_records_of_chain present rule (by simp [ChainDraft.records, inside])
  have inside : ∀ record ∈ Draft.images table.startOf (Draft.rulesStart place) place.2.rules,
      record ∈ table.body := by
    intro record own
    exact valid.anatomy.mem_body_of_passage (List.mem_map.mpr ⟨place, member, rfl⟩)
      (by simp [Passage.records, Draft.passage, own])
  obtain ⟨views, shown, listed⟩ := valid.rules_agree known (valid.userRules _ present) inside
    (show (Draft.passage table.startOf place).chain.rules = _ from rfl)
  have policy : table.built.policy (Draft.passage table.startOf place).chain = .ok none := rfl
  refine ⟨⟨place.2.name, none, none, views⟩, ?_, ?_⟩
  · simp only [Table.view, shown, policy, bind, Except.bind]
    rfl
  · rw [Draft.rulesStart] at listed
    simp only [ChainDraft.listing, listed, bind, Except.bind]
    rfl

end Valid

/-- Whatever a valid draft is built into is accepted, and a walk over it shows the draft. -/
theorem views_of_built (table : TableDraft) (valid : table.Valid) :
    ∃ info entries snapshot views, table.build = .ok (info, entries) ∧
      Table.ofSnapshot info entries = .ok snapshot ∧ (Walk.start snapshot).views = .ok views ∧
      table.listing = .ok views := by
  obtain ⟨built, accepted⟩ := valid.accepted
  let byName (left right : Nat × ChainDraft) : Bool := Bytes.ofText left.2.name ≤ Bytes.ofText right.2.name
  have sorted : (table.passages.map Passage.chain).mergeSort Table.nameLe =
      (table.placedChains.mergeSort byName).map fun place => (Draft.passage table.startOf place).chain := by
    have order : ∀ left ∈ table.placedChains, ∀ right ∈ table.placedChains, byName left right =
        Table.nameLe (Draft.passage table.startOf left).chain (Draft.passage table.startOf right).chain :=
      fun _ _ _ _ => rfl
    rw [passages, List.map_map]
    exact (List.map_mergeSort order).symm
  obtain ⟨builtins, shown, listed⟩ := mapM_agree fun place member => valid.builtin_agree member
  obtain ⟨users, shownUsers, listedUsers⟩ := mapM_agree fun place
    (member : place ∈ table.placedChains.mergeSort byName) => valid.user_agree (List.mem_mergeSort.mp member)
  refine ⟨table.builtInfo, table.builtEntries, table.built, builtins ++ users, built, accepted, ?_, ?_⟩
  · have chains : table.built.chains = Passage.listed table.builtinChains table.passages := rfl
    rw [Walk.views_start, chains, Passage.listed, sorted, builtinChains, List.mapM_append, List.mapM_map,
      List.mapM_map]
    exact bind_eq_ok.mpr ⟨builtins, shown, bind_eq_ok.mpr ⟨users, shownUsers, rfl⟩⟩
  · exact bind_eq_ok.mpr ⟨builtins, listed, bind_eq_ok.mpr ⟨users, listedUsers, rfl⟩⟩

/-- Hooks and chains that are given in another order than they are shown, and rules with every kind
of target. -/
def sample : TableDraft where
  name := "filter"
  builtins := [
    { hook := .output, policy := Verdict.drop, rules := [.unconditional (.goto "b"), .unconditional .fallthrough] },
    { hook := .input, policy := Verdict.accept, rules := [.unconditional (.jump "a")] }]
  chains := [
    { name := "b", rules := [.unconditional (.extension "LOG" [1]), .unconditional (.verdict Verdict.queue)] },
    { name := "a", rules := [] }]

theorem views_of_built_sample : sample.Valid ∧
    ∃ info entries snapshot views, sample.build = .ok (info, entries) ∧
      Table.ofSnapshot info entries = .ok snapshot ∧ (Walk.start snapshot).views = .ok views ∧
      sample.listing = .ok views := by
  have valid : sample.Valid := by decide
  exact ⟨valid, views_of_built sample valid⟩

example : (sample.listing.toOption.map (·.map fun view => (view.name, view.policy, view.rules.map RuleView.target))) =
  some [
    ("INPUT", some .allow, [some "a"]),
    ("OUTPUT", some .deny, [some "b", some ""]),
    ("a", none, []),
    ("b", none, [some "LOG", some "QUEUE"])] := by cbv

end TableDraft

end FilterWatch
