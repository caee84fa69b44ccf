import FilterWatch.Proofs.DraftAnatomy
import FilterWatch.Proofs.RecordRoles

/-! What is listed of a chain against what a packet meets there. From the start of a built-in chain
to its policy no record is left out. From the start of a user chain to its return those are left
out that a hook spans, so that the chain is one run of records only if no hook breaks into it. -/

namespace FilterWatch
open Proofs.Outcomes

namespace Record

def range (lower upper : Nat) (records : List Record) : List Record :=
  records.filter fun record => lower ≤ record.offset ∧ record.offset ≤ upper

theorem mem_range {lower upper : Nat} {records : List Record} {record : Record} :
    record ∈ range lower upper records ↔ record ∈ records ∧ lower ≤ record.offset ∧ record.offset ≤ upper := by
  simp [range]

theorem range_append (lower upper : Nat) (first second : List Record) :
    range lower upper (first ++ second) = range lower upper first ++ range lower upper second := List.filter_append ..

theorem range_eq_nil {lower upper : Nat} {records : List Record}
    (apart : ∀ record ∈ records, record.offset < lower ∨ upper < record.offset) : range lower upper records = [] := by
  refine List.filter_eq_nil_iff.mpr fun record member => ?_
  have outside := apart record member
  simp only [decide_eq_true_eq]
  omega

theorem range_eq_self {lower upper : Nat} {records : List Record}
    (between : ∀ record ∈ records, lower ≤ record.offset ∧ record.offset ≤ upper) :
    range lower upper records = records := by
  refine List.filter_eq_self.mpr fun record member => ?_
  simpa only [decide_eq_true_eq] using between record member

/-- The records after one record up to another, among records that do not overlap. -/
theorem range_of_spaced {before run after : List Record} {first last : Record}
    (spaced : (before ++ first :: (run ++ [last] ++ after)).Pairwise fun earlier later => earlier.next ≤ later.offset) :
    range first.next last.offset (before ++ first :: (run ++ [last] ++ after)) = run ++ [last] := by
  obtain ⟨_, rest, acrossBefore⟩ := List.pairwise_append.mp spaced
  obtain ⟨acrossFirst, rest⟩ := List.pairwise_cons.mp rest
  obtain ⟨own, _, acrossLast⟩ := List.pairwise_append.mp rest
  -- No record overlaps another: what begins before the run is over by then.
  have earlier : range first.next last.offset (before ++ [first]) = [] := by
    apply range_eq_nil
    intro record inside
    have positive := first.size_pos
    have size := record.size_pos
    rcases List.mem_append.mp inside with member | member
    · have bound := acrossBefore record member first (by simp)
      simp only [next] at bound ⊢
      omega
    · rw [List.mem_singleton.mp member, next]
      omega
  have kept : range first.next last.offset (run ++ [last]) = run ++ [last] := by
    apply range_eq_self
    intro record inside
    refine ⟨acrossFirst record (List.mem_append_left _ inside), ?_⟩
    rcases List.mem_append.mp inside with member | member
    · have bound := (List.pairwise_append.mp own).2.2 record member last (by simp)
      simp only [next] at bound
      omega
    · exact Nat.le_of_eq (congrArg Record.offset (List.mem_singleton.mp member))
  have later : range first.next last.offset after = [] := by
    apply range_eq_nil
    intro record inside
    have bound := acrossLast last (by simp) record inside
    have size := last.size_pos
    simp only [next] at bound
    omega
  rw [List.append_cons, range_append, earlier, range_append, kept, later, List.nil_append, List.append_nil]

namespace Consecutive

theorem next_last {start : Nat} {records : List Record} {last : Record}
    (placed : Consecutive start (records ++ [last])) : last.next = start + extent (records ++ [last]) := by
  obtain ⟨_, begins, _⟩ := append.mp placed
  rw [extent_append, extent_cons, next, begins]
  simp only [extent, List.flatMap_nil, List.length_nil]
  omega

private theorem upto {start : Nat} {records : List Record} (placed : Consecutive start records) (upper : Nat) :
    Consecutive start (range start upper records) := by
  induction records generalizing start with
  | nil => trivial
  | cons record rest ih =>
    obtain ⟨rfl, later⟩ := placed
    have positive := record.size_pos
    by_cases inside : record.offset ≤ upper
    · have others : range record.offset upper rest = range record.next upper rest := by
        refine List.filter_congr fun other member => ?_
        have bound := (within later member).1
        rw [decide_eq_decide]
        simp only [next] at bound ⊢
        omega
      have first : range record.offset upper (record :: rest) = record :: range record.offset upper rest :=
        List.filter_cons_of_pos (by simpa using inside)
      rw [first, others]
      exact ⟨rfl, ih later⟩
    · have none : range record.offset upper (record :: rest) = [] := by
        apply range_eq_nil
        intro other member
        rcases List.mem_cons.mp member with rfl | member
        · omega
        · have bound := (within later member).1
          simp only [next] at bound
          omega
      rw [none]
      trivial

/-- The records of a range that starts where a record begins or ends follow one another. -/
theorem range_after {start : Nat} {before after : List Record} (placed : Consecutive start (before ++ after))
    (upper : Nat) : Consecutive (start + extent before) (range (start + extent before) upper (before ++ after)) := by
  obtain ⟨earlier, later⟩ := append.mp placed
  have none : range (start + extent before) upper before = [] := by
    apply range_eq_nil
    intro record member
    have bound := (within earlier member).2
    have positive := record.size_pos
    simp only [next] at bound
    omega
  rw [range_append, none, List.nil_append]
  exact upto later upper

/-- A run of some of the records takes in all that begin in its extent. -/
theorem mem_of_covered {start lower : Nat} {records run : List Record} (placed : Consecutive start records)
    (inside : ∀ record ∈ run, record ∈ records) (connected : Consecutive lower run) {record : Record}
    (member : record ∈ records) (after : lower ≤ record.offset) (before : record.offset < lower + extent run) :
    record ∈ run := by
  induction run generalizing lower with
  | nil =>
    simp only [extent, List.flatMap_nil, List.length_nil] at before
    omega
  | cons first rest ih =>
    obtain ⟨rfl, connected⟩ := connected
    by_cases covered : record.offset < first.next
    · rw [placed.eq_of_covers (inside first (by simp)) member after covered]
      exact List.mem_cons_self
    · rw [extent_cons, ← Nat.add_assoc] at before
      refine List.mem_cons_of_mem _ (ih (fun other own => inside other (by simp [own])) connected ?_ before)
      omega

theorem range_upto {start lower : Nat} {records : List Record} (placed : Consecutive start records) {last : Record}
    (member : last ∈ records) (ordered : lower ≤ last.offset) :
    range lower last.offset records =
      records.filter (fun record => lower ≤ record.offset ∧ record.offset < last.offset) ++ [last] := by
  obtain ⟨before, after, rfl⟩ := List.append_of_mem member
  obtain ⟨earlier, same, later⟩ := append.mp placed
  have positive := last.size_pos
  have front : range lower last.offset before =
      before.filter fun record => lower ≤ record.offset ∧ record.offset < last.offset := by
    refine List.filter_congr fun record inside => ?_
    have bound := (within earlier inside).2
    have size := record.size_pos
    rw [decide_eq_decide]
    simp only [next] at bound
    omega
  have own : range lower last.offset [last] = [last] := range_eq_self (by simpa using ordered)
  have back : range lower last.offset after = [] := by
    apply range_eq_nil
    intro record inside
    have bound := (within later inside).1
    simp only [next] at bound
    omega
  have rest : (last :: after).filter (fun record => lower ≤ record.offset ∧ record.offset < last.offset) = [] := by
    refine List.filter_eq_nil_iff.mpr fun record inside => ?_
    simp only [decide_eq_true_eq]
    rcases List.mem_cons.mp inside with rfl | inside
    · omega
    · have bound := (within later inside).1
      simp only [next] at bound
      omega
  rw [List.filter_append, rest, List.append_nil, ← List.singleton_append, range_append, range_append,
    front, own, back, List.append_nil]

end Consecutive

end Record

namespace Division

variable {info : TableInfo} {entries : Bytes} {body : List Record} {closing : Record} {passages : List Passage}

/-- What follows the head of a passage is what the hooks spare up to its last record. -/
theorem range_spared (division : Division info entries body closing passages) {passage : Passage}
    (member : passage ∈ passages) :
    Record.range passage.head.next passage.last.offset (info.spared body) = passage.rules ++ [passage.last] := by
  have spaced := division.consecutive.pairwise.sublist (List.filter_sublist (p := (info.Spares ·)))
  change (info.spared body).Pairwise _ at spaced
  rw [division.spared] at spaced ⊢
  obtain ⟨before, after, rfl⟩ := List.append_of_mem member
  have parts : (before ++ passage :: after).flatMap Passage.records = before.flatMap Passage.records ++
      passage.head :: (passage.rules ++ [passage.last] ++ after.flatMap Passage.records) := by
    simp [Passage.records]
  rw [parts] at spaced ⊢
  exact Record.range_of_spaced spaced

theorem consecutive_iff (division : Division info entries body closing passages) {passage : Passage}
    (member : passage ∈ passages) :
    Record.Consecutive passage.head.next (passage.rules ++ [passage.last]) ↔
      ∀ record ∈ Record.range passage.head.next passage.last.offset body, info.Spares record := by
  have own : ∀ record ∈ passage.rules ++ [passage.last], record ∈ body ∧ info.Spares record := by
    intro record inside
    exact division.mem_body member (List.mem_cons_of_mem passage.head inside)
  constructor
  · -- A record between would be one of the run, all of which the hooks spare.
    intro connected record inside
    obtain ⟨present, after, before⟩ := Record.mem_range.mp inside
    have size := passage.last.size_pos
    have ends := connected.next_last
    have covered := division.consecutive.mem_of_covered (fun other run => (own other run).1) connected present after
      (by simp only [Record.next] at ends ⊢; omega)
    exact (own record covered).2
  · -- Where nothing is left out, the range of the spared records is that of the whole body.
    intro spared
    have same : Record.range passage.head.next passage.last.offset body = passage.rules ++ [passage.last] := by
      rw [← division.range_spared member, Record.range, Record.range, TableInfo.spared, List.filter_filter]
      refine List.filter_congr fun record present => ?_
      by_cases inside : passage.head.next ≤ record.offset ∧ record.offset ≤ passage.last.offset
      · have free := spared record (Record.mem_range.mpr ⟨present, inside⟩)
        simp [inside, free]
      · simp [inside]
    obtain ⟨before, after, parts⟩ := List.append_of_mem (division.mem_body member passage.head_mem).1
    have placed := division.consecutive
    rw [List.append_cons] at parts
    rw [parts] at placed
    have run := placed.range_after passage.last.offset
    rwa [← (Record.Consecutive.append.mp placed).1.next_last, ← parts, same] at run

end Division

namespace Anatomy

variable {info : TableInfo} {entries : Bytes} {body : List Record} {closing : Record}
  {builtin : List Chain} {passages : List Passage}

/-- The chain of a hook takes in every record from the hook's entry to its underflow. -/
theorem range_of_hook (anatomy : Anatomy info entries body closing builtin passages) {chain : Chain}
    (member : chain ∈ Passage.listed builtin passages) {hook : Hook} (hooked : chain.hook? = some hook) :
    ∃ policy, chain.policy? = some policy ∧
      chain.rules ++ [policy] =
        Record.range (info.hookEntry.get hook).toNat (info.underflow.get hook).toNat body ∧
      Record.Consecutive (info.hookEntry.get hook).toNat (chain.rules ++ [policy]) := by
  obtain ⟨_, _, built⟩ := anatomy.builtin_of_hook member hooked
  obtain ⟨_, ⟨first, present, begins⟩, _⟩ := Chain.exists_builtin_iff.mp ⟨chain, built⟩
  obtain ⟨policy, inside, here, ordered, rfl⟩ := Chain.builtin_eq_ok built
  have placed := anatomy.division.consecutive
  have whole := placed.range_upto inside ordered
  refine ⟨policy, rfl, by rw [← here]; exact whole.symm, ?_⟩
  obtain ⟨before, after, parts⟩ := List.append_of_mem present
  rw [parts] at placed
  obtain ⟨_, start, _⟩ := Record.Consecutive.append.mp placed
  have run := placed.range_after policy.offset
  rw [← start, begins, ← parts, whole] at run
  exact run

theorem head_not_mem_rules (anatomy : Anatomy info entries body closing builtin passages) {chain : Chain}
    (member : chain ∈ Passage.listed builtin passages) {hook : Hook} (hooked : chain.hook? = some hook)
    {passage : Passage} (opened : passage ∈ passages) : passage.head ∉ chain.rules := by
  intro rule
  have covered := anatomy.spans_of_mem member hooked (.inl rule)
  exact TableInfo.spares_iff.mp (anatomy.division.mem_body opened passage.head_mem).2 hook covered

end Anatomy

/-- What the chains of an accepted snapshot list of the records from their starts on. -/
theorem Table.chains_run {info : TableInfo} {entries : Bytes} {table : Table}
    (accepted : ofSnapshot info entries = .ok table) :
    ∃ body closing passages, Division info entries body closing passages ∧
      (∀ chain ∈ table.chains, chain.kind = .user → ∃ passage ∈ passages, passage.chain = chain ∧
        chain.rules ++ [passage.last] = Record.range chain.start passage.last.offset (info.spared body) ∧
        (Record.Consecutive chain.start (chain.rules ++ [passage.last]) ↔
          ∀ record ∈ Record.range chain.start passage.last.offset body, info.Spares record)) ∧
      ∀ chain ∈ table.chains, ∀ hook, chain.hook? = some hook →
        (∃ policy, chain.policy? = some policy ∧
          chain.rules ++ [policy] =
            Record.range (info.hookEntry.get hook).toNat (info.underflow.get hook).toNat body ∧
          Record.Consecutive (info.hookEntry.get hook).toNat (chain.rules ++ [policy])) ∧
        ∀ passage ∈ passages, passage.head ∉ chain.rules := by
  obtain ⟨body, closing, builtin, passages, anatomy, rfl⟩ := ofSnapshot_eq_ok.mp accepted
  have division := anatomy.division
  refine ⟨body, closing, passages, division, ?_, ?_⟩
  · intro chain member user
    obtain ⟨passage, present, rfl⟩ := anatomy.passage_of_user member user
    exact ⟨passage, present, rfl, (division.range_spared present).symm, division.consecutive_iff present⟩
  · intro chain member hook hooked
    exact ⟨anatomy.range_of_hook member hooked, fun passage opened => anatomy.head_not_mem_rules member hooked opened⟩

namespace TableDraft

def unhooked : TableDraft where
  name := "filter"
  builtins := []
  chains := [
    { name := "web", rules := [.unconditional (.verdict Verdict.accept), .unconditional (.verdict Verdict.drop)] },
    { name := "log", rules := [] }]

/-- One hook leads to the second rule of the first chain, and another to the head of the second. -/
def crossingInfo : TableInfo :=
  { unhooked.builtInfo with
    validHooks := Hook.input.bit ||| Hook.output.bit
    hookEntry := ((PerHook.fill 0).set .input 328).set .output 632
    underflow := ((PerHook.fill 0).set .input 328).set .output 808 }

def unhookedRecord (target : TargetDraft) (offset : Nat) : Record :=
  (RuleDraft.unconditional target).image unhooked.startOf offset

theorem unhookedRecord_offset (target : TargetDraft) (offset : Nat) : (unhookedRecord target offset).offset = offset :=
  rfl

theorem unhookedRecord_verdict (code : Int32) (offset : Nat) :
    ∃ target, (unhookedRecord (.verdict code) offset).target = .ok (some target) ∧ target.isStandard = true ∧
      target.verdict = .ok code := by
  rw [unhookedRecord]
  exact RuleDraft.image_verdict rfl (by rw [RuleDraft.size_verdict]; decide)

theorem unhookedRecord_head {chain : String} (short : (Bytes.ofText chain).length ≤ 29)
    (plain : 0 ∉ Bytes.ofText chain) (offset : Nat) :
    (unhookedRecord (.head chain) offset).errorName = .ok (some chain) := by
  have sized : (RuleDraft.unconditional (.head chain)).size = 176 := rfl
  rw [unhookedRecord]
  exact (RuleDraft.content_of_head rfl short).image_head rfl (by omega) short plain

def crossingHooks : List Chain := [
  { name := "INPUT", kind := .builtin .input (unhookedRecord (.verdict Verdict.drop) 328), start := 328, rules := [] },
  { name := "OUTPUT", kind := .builtin .output (unhookedRecord (.verdict Verdict.ret) 808), start := 632
    rules := [unhookedRecord (.head "log") 632] }]

def crossedPassage : Passage where
  head := unhookedRecord (.head "web") 0
  name := "web"
  rules := [unhookedRecord (.verdict Verdict.accept) 176]
  last := unhookedRecord (.verdict Verdict.ret) 480

theorem unhooked_valid : unhooked.Valid := by decide

theorem crossedPassage_valid : crossedPassage.Valid := by
  refine ⟨unhookedRecord_head (by decide) (by decide) 0, ?_, unhookedRecord_verdict Verdict.ret 480⟩
  intro rule member
  cases List.mem_singleton.mp member
  obtain ⟨target, found, standard, _⟩ := unhookedRecord_verdict Verdict.accept 176
  exact Record.errorName_of_standard found standard

theorem crossing_anatomy : Anatomy crossingInfo unhooked.builtEntries unhooked.body unhooked.closing
    crossingHooks [crossedPassage] := by
  have anatomy := unhooked_valid.anatomy
  refine ⟨anatomy.consecutive, anatomy.bytes, anatomy.announced, by decide, anatomy.closing, by decide +kernel, ?_,
    by decide +kernel⟩
  intro passage member
  cases List.mem_singleton.mp member
  exact crossedPassage_valid

theorem crossing_accepted : Table.ofSnapshot crossingInfo unhooked.builtEntries =
    .ok ⟨crossingInfo, Passage.listed crossingHooks [crossedPassage]⟩ :=
  Table.ofSnapshot_eq_ok.mpr ⟨_, _, _, _, crossing_anatomy, rfl⟩

/-- A user chain whose rules and any return are no run of records, and a hook's chain that lists the
head of another. -/
theorem broken_into : ∃ table, Table.ofSnapshot crossingInfo unhooked.builtEntries = .ok table ∧
    (∃ chain ∈ table.chains, chain.kind = .user ∧ ∀ last, Record.parse unhooked.builtEntries last.offset = .ok last →
      last.Returns → ¬ Record.Consecutive chain.start (chain.rules ++ [last])) ∧
    ∃ chain ∈ table.chains, chain.hook? = some .output ∧ ∃ rule ∈ chain.rules, rule.errorName = .ok (some "log") := by
  refine ⟨_, crossing_accepted, ?_, ?_⟩
  · refine ⟨crossedPassage.chain, Anatomy.mem_listed.mpr (.inr ⟨_, by simp, rfl⟩), rfl, ?_⟩
    intro last parsed returns connected
    have behind : last.offset = (unhookedRecord (.verdict Verdict.accept) 176).next := connected.2.1
    rw [unhookedRecord, (RuleDraft.content_of_verdict rfl).image_next, RuleDraft.size_verdict] at behind
    have inside : unhookedRecord (.verdict Verdict.drop) 328 ∈ unhooked.body :=
      crossing_anatomy.mem_body_of_policy (Anatomy.mem_listed.mpr (.inl List.mem_cons_self)) rfl
    have dropped := crossing_anatomy.parse_of_body inside
    rw [unhookedRecord_offset] at dropped
    rw [behind, dropped] at parsed
    obtain rfl := Except.ok.inj parsed
    obtain ⟨target, found, _, returned⟩ := returns
    obtain ⟨other, same, _, decoded⟩ := unhookedRecord_verdict Verdict.drop 328
    cases found.symm.trans same
    exact absurd (returned.symm.trans decoded) (by decide)
  · refine ⟨_, Anatomy.mem_listed.mpr (.inl (List.mem_cons_of_mem _ List.mem_cons_self)), rfl,
      unhookedRecord (.head "log") 632, List.mem_singleton_self _, ?_⟩
    exact unhookedRecord_head (by decide) (by decide) 632

theorem chains_run_crossing : Table.ofSnapshot crossingInfo unhooked.builtEntries =
      .ok ⟨crossingInfo, Passage.listed crossingHooks [crossedPassage]⟩ ∧
    ∃ body closing passages, Division crossingInfo unhooked.builtEntries body closing passages ∧
      ∃ passage ∈ passages, passage.chain = crossedPassage.chain ∧
        crossedPassage.rules ++ [passage.last] =
          Record.range crossedPassage.head.next passage.last.offset (crossingInfo.spared body) := by
  obtain ⟨body, closing, passages, division, user, _⟩ := Table.chains_run crossing_accepted
  have member : crossedPassage.chain ∈ Passage.listed crossingHooks [crossedPassage] :=
    Anatomy.mem_listed.mpr (.inr ⟨_, List.mem_singleton_self _, rfl⟩)
  obtain ⟨passage, present, same, listed, _⟩ := user _ member rfl
  exact ⟨crossing_accepted, body, closing, passages, division, passage, present, same, listed⟩

end TableDraft

end FilterWatch
