import FilterWatch.Proofs.BlockLayout
import FilterWatch.Proofs.DraftAnatomy
import FilterWatch.Proofs.PortLists
import FilterWatch.Proofs.PortRanges
import FilterWatch.Rule

/-! Which ports a rule tells of a side. The first match block that asks for ports of the side decides, and those that
ask for none are passed over. A list that holds the range of all ports among others asks for no less than all of them,
but is told all the same, and the blocks behind it are not. -/

namespace FilterWatch
open Proofs.Outcomes

namespace PortTest

/-- The test leaves out some port. -/
def Restricts : PortTest → Prop
  | range low high _ => ¬ (low = 0 ∧ high = 65535)
  | list items inverted => inverted = true ∨ .span 0 65535 ∉ items

instance : (asked : PortTest) → Decidable asked.Restricts
  | range _ _ _ => inferInstanceAs (Decidable (¬ _))
  | list _ _ => inferInstanceAs (Decidable (_ ∨ _))

theorem not_restricts_list {items : List PortItem} {inverted : Bool} :
    ¬ (list items inverted).Restricts ↔ inverted = false ∧ .span 0 65535 ∈ items := by
  rw [Restricts, not_or, not_not, Bool.not_eq_true]

theorem text_ne_of_restricts {items : List PortItem} {asked : PortTest} (all : .span 0 65535 ∈ items)
    (restricts : asked.Restricts) : (list items false).text ≠ asked.text := by
  intro same
  have shown := text_eq_iff.mp same
  cases asked with
  | range low high inverted =>
    by_cases one : low = high
    · rw [PortTest.shown, PortTest.shown, if_pos one] at shown
      cases shown
    · rw [PortTest.shown, PortTest.shown, if_neg one] at shown
      cases shown
      cases List.mem_singleton.mp all
      exact restricts ⟨rfl, rfl⟩
  | list others negated =>
    cases shown
    exact not_restricts_list.mpr ⟨rfl, all⟩ restricts

end PortTest

namespace Rule
open Match

/-- What a match block, by its name and its data, asks of the port of a side. -/
inductive Asks (block : MatchBlock) (side : Side) : Option PortTest → Prop
  | foreign (other : block.name ∉ [PortRange.tcp.name, PortRange.udp.name, PortList.name]) : Asks block side none
  | range {form : PortRange.Form} {low high : UInt16} {inverted : Bool} (known : form ∈ [PortRange.tcp, PortRange.udp])
      (named : block.name = form.name) (holds : PortRange.Holds form block.data side low high inverted) :
      Asks block side (PortTest.ofRange? low high inverted)
  | list {asked : Option PortTest} (named : block.name = PortList.name)
      (told : PortList.Told block.data side (.ok asked)) : Asks block side asked

variable {block : MatchBlock} {side : Side} {asked : Option PortTest} {chain : String} {fault : Option LayoutError}

theorem blockPorts_range {form : PortRange.Form} (known : form ∈ [PortRange.tcp, PortRange.udp])
    (named : block.name = form.name) : (blockPorts chain block side).value = PortRange.test form block side := by
  unfold blockPorts
  rcases List.mem_pair.mp known with rfl | rfl
  · rw [if_pos named]
    rfl
  · have other : block.name ≠ PortRange.tcp.name := by
      rw [named]
      decide
    rw [if_neg other, if_pos named]
    rfl

theorem blockPorts_list (named : block.name = PortList.name) :
    (blockPorts chain block side).value = (PortList.testOf block side).value := by
  have first : block.name ≠ PortRange.tcp.name := by
    rw [named]
    decide
  have second : block.name ≠ PortRange.udp.name := by
    rw [named]
    decide
  unfold blockPorts
  rw [if_neg first, if_neg second, if_pos named]

theorem blockPorts_foreign (other : block.name ∉ [PortRange.tcp.name, PortRange.udp.name, PortList.name]) :
    (blockPorts chain block side).value = .ok none := by
  obtain ⟨first, second, third⟩ : block.name ≠ PortRange.tcp.name ∧ block.name ≠ PortRange.udp.name ∧
      block.name ≠ PortList.name := by simpa using other
  unfold blockPorts
  rw [if_neg first, if_neg second, if_neg third]
  rfl

theorem blockPorts_of_asks (chain : String) (asks : Asks block side asked) :
    (blockPorts chain block side).value = .ok asked := by
  cases asks with
  | foreign other => exact blockPorts_foreign other
  | range known named holds =>
    rw [blockPorts_range known named]
    exact PortRange.test_of_holds holds
  | list named told =>
    rw [blockPorts_list named]
    exact PortList.value_of_told told

theorem Asks.unique {other : Option PortTest} (asks : Asks block side asked) (also : Asks block side other) :
    asked = other :=
  Except.ok.inj ((blockPorts_of_asks "" asks).symm.trans (blockPorts_of_asks "" also))

/-- A block is well formed for a side exactly if it can be read. -/
theorem blockPorts_value_eq_ok : (blockPorts chain block side).value = .ok asked ↔ Asks block side asked := by
  constructor
  · intro read
    by_cases named : block.name ∈ [PortRange.tcp.name, PortRange.udp.name, PortList.name]
    · simp only [List.mem_cons, List.not_mem_nil, or_false] at named
      rcases named with named | named | named
      · rw [blockPorts_range (by simp) named] at read
        obtain ⟨low, high, inverted, holds, rfl⟩ := (PortRange.test_eq_ok (by simp)).mp read
        exact .range (by simp) named holds
      · rw [blockPorts_range (by simp) named] at read
        obtain ⟨low, high, inverted, holds, rfl⟩ := (PortRange.test_eq_ok (by simp)).mp read
        exact .range (by simp) named holds
      · rw [blockPorts_list named] at read
        exact .list named (PortList.testOf_value_eq_iff.mp read)
    · rw [blockPorts_foreign named] at read
      cases read
      exact .foreign named
  · exact blockPorts_of_asks chain

/-- A block that asks for ports without leaving out any is a list, and has the range of all ports among its items. -/
theorem Asks.list_of_unrestricted {asked : PortTest} (asks : Asks block side (some asked)) (all : ¬ asked.Restricts) :
    block.name = PortList.name ∧ ∃ items, asked = .list items false ∧ .span 0 65535 ∈ items := by
  generalize held : some asked = said at asks
  cases asks with
  | foreign other => cases held
  | range known named holds =>
    obtain ⟨restricted, rfl⟩ := PortRange.ofRange?_eq_some.mp held.symm
    exact absurd restricted all
  | list named told =>
    subst held
    cases told with
    | items header known few selects filled reads =>
      obtain ⟨plain, all⟩ := PortTest.not_restricts_list.mp all
      exact ⟨named, _, congrArg _ plain, all⟩

/-! ### The first block that asks for ports -/

theorem firstPortTest_of_silent (chain : String) (fault : Option LayoutError) {passed : List MatchBlock}
    (silent : ∀ other ∈ passed, Asks other side none) (rest : List MatchBlock) :
    (firstPortTest chain side fault (passed ++ rest)).value = (firstPortTest chain side fault rest).value := by
  induction passed with
  | nil => rfl
  | cons other passed ih =>
    have first := blockPorts_of_asks chain (silent other List.mem_cons_self)
    rw [List.cons_append, firstPortTest, Attempt.value_bind, first, ok_bind]
    exact ih fun other member => silent other (List.mem_cons_of_mem _ member)

theorem firstPortTest_of_asks {asked : PortTest} (asks : Asks block side (some asked)) (rest : List MatchBlock) :
    (firstPortTest chain side fault (block :: rest)).value = .ok (some asked) := by
  rw [firstPortTest, Attempt.value_bind, blockPorts_of_asks chain asks]
  rfl

/-- Well-formed blocks say nothing of a side, or one of them is the first that does. -/
theorem silent_or_first {blocks : List MatchBlock} (formed : ∀ block ∈ blocks, ∃ said, Asks block side said) :
    (∀ block ∈ blocks, Asks block side none) ∨ ∃ passed block rest asked, blocks = passed ++ block :: rest ∧
      (∀ other ∈ passed, Asks other side none) ∧ Asks block side (some asked) := by
  induction blocks with
  | nil => exact .inl nofun
  | cons block rest ih =>
    obtain ⟨said, asks⟩ := formed block List.mem_cons_self
    cases said with
    | some asked => exact .inr ⟨[], block, rest, asked, rfl, nofun, asks⟩
    | none =>
      rcases ih fun other member => formed other (List.mem_cons_of_mem _ member) with
        silent | ⟨passed, first, others, asked, rfl, silent, asking⟩
      · exact .inl (List.forall_mem_cons.mpr ⟨asks, silent⟩)
      · exact .inr ⟨block :: passed, first, others, asked, rfl, List.forall_mem_cons.mpr ⟨asks, silent⟩, asking⟩

variable {rule : Rule}

theorem port_of_silent (whole : rule.record.matchWalk.fault = none)
    (silent : ∀ block ∈ rule.record.matchWalk.blocks, Asks block side none) : (rule.port side).value = .ok none := by
  have passed := firstPortTest_of_silent rule.chain.name none silent []
  rw [List.append_nil] at passed
  rw [port, Attempt.value_map, portTest, whole, passed]
  rfl

theorem port_of_first {passed rest : List MatchBlock} {asked : PortTest}
    (blocks : rule.record.matchWalk.blocks = passed ++ block :: rest) (silent : ∀ other ∈ passed, Asks other side none)
    (asks : Asks block side (some asked)) : (rule.port side).value = .ok (some asked.text) := by
  rw [port, Attempt.value_map, portTest, blocks, firstPortTest_of_silent _ _ silent, firstPortTest_of_asks asks]
  rfl

/-- The block asks for ports of the side, and not for all of them. -/
def Restricting (block : MatchBlock) (side : Side) : Prop := ∃ asked, Asks block side (some asked) ∧ asked.Restricts

/-- A rule tells the first test of ports that its blocks ask of a side. The first block that restricts the side is told
exactly if every block before it is silent on the side, and where none restricts it, nothing is told exactly if all are.
A block that is neither silent nor restricting is a list with the range of all ports in it. -/
theorem port_of_blocks (rule : Rule) (whole : rule.record.matchWalk.fault = none) (side : Side)
    (formed : ∀ block ∈ rule.record.matchWalk.blocks, ∃ asked, Asks block side asked) :
    (∀ passed block rest asked, rule.record.matchWalk.blocks = passed ++ block :: rest →
      (∀ other ∈ passed, Asks other side none) → Asks block side (some asked) →
      (rule.port side).value = .ok (some asked.text)) ∧
    (∀ passed block rest asked, rule.record.matchWalk.blocks = passed ++ block :: rest →
      (∀ other ∈ passed, ¬ Restricting other side) → Asks block side (some asked) → asked.Restricts →
      ((rule.port side).value = .ok (some asked.text) ↔ ∀ other ∈ passed, Asks other side none)) ∧
    ((∀ block ∈ rule.record.matchWalk.blocks, ¬ Restricting block side) →
      ((rule.port side).value = .ok none ↔ ∀ block ∈ rule.record.matchWalk.blocks, Asks block side none)) ∧
    ∀ block ∈ rule.record.matchWalk.blocks, Asks block side none ∨ Restricting block side ∨
      block.name = PortList.name ∧ ∃ items, Asks block side (some (.list items false)) ∧ .span 0 65535 ∈ items := by
  refine ⟨fun passed block rest asked blocks => port_of_first blocks, ?_, fun unrestricted => ⟨?_, port_of_silent whole⟩, ?_⟩
  · intro passed block rest asked blocks unrestricted asks restricts
    refine ⟨fun told => ?_, fun silent => port_of_first blocks silent asks⟩
    have own : ∀ other ∈ passed, ∃ asked, Asks other side asked := by
      intro other member
      apply formed
      rw [blocks]
      exact List.mem_append_left _ member
    -- A block that speaks first without restricting is a list of all ports, whose text no restricting test has.
    rcases silent_or_first own with silent | ⟨before, first, behind, found, rfl, silent, wins⟩
    · exact silent
    · have all : ¬ found.Restricts := fun held => unrestricted first (by simp) ⟨found, wins, held⟩
      obtain ⟨-, items, rfl, whole⟩ := wins.list_of_unrestricted all
      have instead := port_of_first (by rw [blocks, List.append_assoc, List.cons_append]) silent wins
      have same := Option.some.inj (Except.ok.inj (instead.symm.trans told))
      exact absurd same (PortTest.text_ne_of_restricts whole restricts)
  · intro told
    rcases silent_or_first formed with silent | ⟨before, first, behind, found, blocks, silent, wins⟩
    · exact silent
    · cases (port_of_first blocks silent wins).symm.trans told
  · intro block member
    obtain ⟨asked, asks⟩ := formed block member
    cases asked with
    | none => exact .inl asks
    | some asked =>
      by_cases restricts : asked.Restricts
      · exact .inr (.inl ⟨asked, asks, restricts⟩)
      · obtain ⟨named, items, rfl, all⟩ := asks.list_of_unrestricted restricts
        exact .inr (.inr ⟨named, items, asks, all⟩)

end Rule

namespace TableDraft
open Match

/-- A list for the destination, of one item with all ports. -/
def allPorts : MatchBlock := ⟨PortList.name, 1, [1, 2, 0, 0, 255, 255] ++ Bytes.zeros 26 ++ [1] ++ Bytes.zeros 15⟩

/-- A block for the one destination port 22. -/
def remoteShell : MatchBlock := ⟨PortRange.tcp.name, 0, [0, 0, 255, 255, 22, 0, 22, 0, 0, 0, 0, 0]⟩

/-- A rule that asks for any of all destination ports, and then for one. -/
def covered : TableDraft where
  name := "filter"
  builtins := [{
    hook := .input, policy := Verdict.drop
    rules := [{
      RuleDraft.unconditional (.verdict Verdict.accept) with
      protocol := 6
      blocks := [allPorts.image, remoteShell.image] }] }]
  chains := []

theorem covered_valid : covered.Valid := by decide +kernel

theorem covered_told : ∃ chain ∈ covered.built.chains, ∃ rule ∈ covered.built.rulesOf chain,
    rule.record.matchWalk = ⟨[allPorts.padded, remoteShell.padded], none⟩ ∧
      (rule.port .destination).value = .ok (some "0-65535") := by
  decide +kernel

theorem allPorts_asks : Rule.Asks allPorts.padded .destination (some (.list [.span 0 65535] false)) := by
  have header : PortList.Header allPorts.padded.data 1 2 := ⟨.inr rfl, rfl, rfl⟩
  have selects : PortList.Selects 1 .destination := .inl rfl
  have reads : PortList.Reads (PortList.slots allPorts.padded.data 2) [.span 0 65535] := .span .done
  exact .list rfl (.items header (by decide) (by decide) selects (by decide) reads)

theorem allPorts_unrestricting : ¬ Rule.Restricting allPorts.padded .destination := by
  rintro ⟨asked, asks, restricts⟩
  cases asks.unique allPorts_asks
  exact absurd restricts (by decide)

theorem remoteShell_asks : Rule.Asks remoteShell.padded .destination (some (.range 22 22 false)) := by
  have holds : PortRange.Holds PortRange.tcp remoteShell.padded.data .destination 22 22 false :=
    ⟨rfl, rfl, 0, rfl, rfl⟩
  exact .range (by decide) rfl holds

/-- The one port that a rule asks for is not told, since a list with all ports stands before it. -/
theorem port_hidden : Table.ofSnapshot covered.builtInfo covered.builtEntries = .ok covered.built ∧
    ∃ chain ∈ covered.built.chains, ∃ rule ∈ covered.built.rulesOf chain, ∃ first second,
      rule.record.matchWalk = ⟨[first, second], none⟩ ∧
        Rule.Asks first .destination (some (.list [.span 0 65535] false)) ∧
        Rule.Asks second .destination (some (.range 22 22 false)) ∧
        PortTest.text (.range 22 22 false) = "22 " ∧ (rule.port .destination).value = .ok (some "0-65535") := by
  obtain ⟨chain, member, rule, inside, walk, told⟩ := covered_told
  exact ⟨covered_valid.accepted.2, chain, member, rule, inside, _, _, walk, allPorts_asks, remoteShell_asks,
    by decide +kernel, told⟩

theorem port_of_blocks_hidden : ∃ chain ∈ covered.built.chains, ∃ rule ∈ covered.built.rulesOf chain,
    rule.record.matchWalk.fault = none ∧
      (∀ block ∈ rule.record.matchWalk.blocks, ∃ asked, Rule.Asks block .destination asked) ∧
      (rule.port .destination).value = .ok (some (PortTest.list [.span 0 65535] false).text) ∧
      (rule.port .destination).value ≠ .ok (some (PortTest.range 22 22 false).text) := by
  obtain ⟨chain, member, rule, inside, walk, -⟩ := covered_told
  have whole : rule.record.matchWalk.fault = none := by rw [walk]
  have blocks : rule.record.matchWalk.blocks = [allPorts.padded, remoteShell.padded] := by rw [walk]
  have formed : ∀ block ∈ rule.record.matchWalk.blocks, ∃ asked, Rule.Asks block .destination asked := by
    rw [blocks]
    exact List.forall_mem_cons.mpr ⟨⟨_, allPorts_asks⟩, List.forall_mem_singleton.mpr ⟨_, remoteShell_asks⟩⟩
  obtain ⟨first, restricting, -, -⟩ := rule.port_of_blocks whole .destination formed
  refine ⟨chain, member, rule, inside, whole, formed, first [] _ _ _ blocks nofun allPorts_asks, fun told => ?_⟩
  have exact := restricting [_] _ [] _ blocks (by simpa using allPorts_unrestricting) remoteShell_asks (by decide)
  cases allPorts_asks.unique (exact.mp told _ List.mem_cons_self)

end TableDraft

end FilterWatch
