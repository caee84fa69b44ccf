import FilterWatch.Proofs.RecordRuns

/-! The grammar of the user chains: outside the hooks' spans, the records of a table are passages,
each a head, the rules of its chain, and the return that closes it. Reading them record by record
accepts exactly the sequences of passages. -/

namespace FilterWatch
open Proofs.Outcomes

/-- A record hands a packet back to the calling chain. -/
def Record.Returns (record : Record) : Prop :=
  ∃ target, record.target = .ok (some target) ∧ target.isStandard = true ∧ target.verdict = .ok Verdict.ret

/-- The records of one user chain. -/
structure Passage where
  head : Record
  name : String
  rules : List Record
  last : Record

namespace Passage

def records (passage : Passage) : List Record := passage.head :: passage.rules ++ [passage.last]

theorem head_mem (passage : Passage) : passage.head ∈ passage.records := by simp [records]

/-- The chain that the records make up. A jump to it leads past its head. -/
def chain (passage : Passage) : Chain where
  name := passage.name
  kind := .user
  start := passage.head.next
  rules := passage.rules

/-- The targets of the records fit their places in the passage. -/
structure Valid (passage : Passage) : Prop where
  head : passage.head.errorName = .ok (some passage.name)
  rules : ∀ rule ∈ passage.rules, rule.errorName = .ok none
  last : passage.last.Returns

end Passage

theorem Record.errorName_of_standard {record : Record} {target : Target}
    (found : record.target = .ok (some target)) (standard : target.isStandard = true) :
    record.errorName = .ok none := by
  have named : target.name ≠ Record.errorTarget := by
    simp only [Target.isStandard, decide_eq_true_eq] at standard
    rw [standard]
    decide
  simp only [Record.errorName, found, bind, Except.bind, Target.errorName, if_neg named]

theorem Passage.Valid.plain {passage : Passage} (valid : passage.Valid) :
    ∀ record ∈ passage.rules ++ [passage.last], record.errorName = .ok none := by
  intro record member
  rcases List.mem_append.mp member with member | member
  · exact valid.rules record member
  · cases List.mem_singleton.mp member
    obtain ⟨target, read, standard, _⟩ := valid.last
    exact Record.errorName_of_standard read standard

theorem OpenChain.close_eq_ok {current : OpenChain} {chain : Chain} :
    current.close = .ok chain ↔ ∃ rules last, current.records = rules ++ [last] ∧ last.Returns ∧
      chain = { name := current.name, kind := .user, start := current.start, rules } := by
  rcases List.eq_nil_or_concat current.records with empty | ⟨rules, last, same⟩
  · simp [close, empty, throw, throwThe, MonadExceptOf.throw]
  · simp only [List.concat_eq_append] at same
    have unique : ∀ rules' last', current.records = rules' ++ [last'] ↔ rules = rules' ∧ last = last' := by
      intro rules' last'
      simp [same]
    simp only [unique, Record.Returns]
    constructor
    · intro closed
      simp only [close, same, List.getLast?_concat, List.dropLast_concat, bind_eq_ok] at closed
      obtain ⟨found, read, closed⟩ := closed
      cases found with
      | none => cases closed
      | some target =>
        simp only at closed
        split at closed
        next standard =>
          obtain ⟨code, decoded, closed⟩ := bind_eq_ok.mp closed
          split at closed
          next returns =>
            cases closed
            exact ⟨rules, last, ⟨rfl, rfl⟩, ⟨target, read, standard, by rw [decoded, returns]⟩, rfl⟩
          · cases closed
        · cases closed
    · rintro ⟨_, _, ⟨rfl, rfl⟩, ⟨target, read, standard, decoded⟩, rfl⟩
      simp only [close, same, List.getLast?_concat, List.dropLast_concat, read, standard, decoded, bind,
        Except.bind, ite_true]
      rfl

namespace Assembly

/-- What has been assembled from some records: finished passages, and the one being read. -/
def Holds (assembly : Assembly) (records : List Record) : Prop :=
  ∃ passages : List Passage, (∀ passage ∈ passages, passage.Valid) ∧
    assembly.finished = passages.map Passage.chain ∧
    match assembly.current with
    | none => passages = [] ∧ records = []
    | some current => ∃ head : Record, head.errorName = .ok (some current.name) ∧ current.start = head.next ∧
        (∀ record ∈ current.records, record.errorName = .ok none) ∧
        records = passages.flatMap Passage.records ++ head :: current.records

theorem Holds.finish {assembly : Assembly} {records : List Record} {chains : List Chain}
    (holds : assembly.Holds records) (finished : assembly.finish = .ok chains) :
    ∃ passages : List Passage, (∀ passage ∈ passages, passage.Valid) ∧
      records = passages.flatMap Passage.records ∧ chains = passages.map Passage.chain := by
  obtain ⟨passages, valid, done, rest⟩ := holds
  unfold Assembly.finish at finished
  cases opened : assembly.current with
  | none =>
    simp only [opened] at rest finished
    obtain ⟨rfl, rfl⟩ := rest
    cases finished
    exact ⟨[], by simp, rfl, done⟩
  | some current =>
    simp only [opened] at rest finished
    obtain ⟨head, named, start, plain, rfl⟩ := rest
    obtain ⟨closed, close, rfl⟩ := map_eq_ok.mp finished
    obtain ⟨rules, last, same, returns, rfl⟩ := OpenChain.close_eq_ok.mp close
    refine ⟨passages ++ [⟨head, current.name, rules, last⟩], ?_, ?_, ?_⟩
    · intro passage member
      rcases List.mem_append.mp member with member | member
      · exact valid passage member
      · cases List.mem_singleton.mp member
        exact ⟨named, fun rule inside => plain rule (by simp [same, inside]), returns⟩
    · simp [Passage.records, same]
    · simp [done, Passage.chain, start]

theorem Holds.add {assembly after : Assembly} {records : List Record} {record : Record}
    (holds : assembly.Holds records) (added : assembly.add record = .ok after) :
    after.Holds (records ++ [record]) := by
  obtain ⟨name, read, added⟩ := bind_eq_ok.mp added
  cases name with
  | some name =>
    obtain ⟨chains, finished, same⟩ := bind_eq_ok.mp added
    cases same
    obtain ⟨passages, valid, rfl, rfl⟩ := holds.finish finished
    exact ⟨passages, valid, rfl, record, read, rfl, by simp, rfl⟩
  | none =>
    obtain ⟨passages, valid, done, rest⟩ := holds
    cases opened : assembly.current with
    | none =>
      simp only [opened] at added
      cases added
    | some current =>
      simp only [opened] at added rest
      obtain ⟨head, named, start, plain, rfl⟩ := rest
      cases added
      refine ⟨passages, valid, done, head, named, start, ?_, by simp⟩
      intro other member
      rcases List.mem_append.mp member with member | member
      · exact plain other member
      · cases List.mem_singleton.mp member
        exact read

theorem Holds.foldlM {assembly after : Assembly} {before records : List Record}
    (holds : assembly.Holds before) (read : records.foldlM Assembly.add assembly = .ok after) :
    after.Holds (before ++ records) := by
  induction records generalizing assembly before with
  | nil =>
    cases read
    simpa using holds
  | cons record rest ih =>
    rw [List.foldlM_cons] at read
    obtain ⟨next, added, read⟩ := bind_eq_ok.mp read
    simpa using ih (holds.add added) read

theorem foldlM_plain (finished : List Chain) (current : OpenChain) {records : List Record}
    (plain : ∀ record ∈ records, record.errorName = .ok none) :
    records.foldlM Assembly.add ⟨finished, some current⟩ =
      .ok ⟨finished, some { current with records := current.records ++ records }⟩ := by
  induction records generalizing current with
  | nil => simp [List.foldlM, pure, Except.pure]
  | cons record rest ih =>
    have read := plain record (by simp)
    have first : Assembly.add ⟨finished, some current⟩ record =
        .ok ⟨finished, some { current with records := current.records ++ [record] }⟩ := by
      simp only [Assembly.add, read, bind, Except.bind]
      rfl
    rw [foldlM_cons_of_ok first, ih _ fun other member => plain other (by simp [member])]
    simp only [List.append_assoc, List.singleton_append]

/-- A passage adds its chain to those that were complete before it. -/
theorem foldlM_passage {assembly : Assembly} {chains : List Chain} {passage : Passage}
    (finished : assembly.finish = .ok chains) (valid : passage.Valid) :
    ∃ after, passage.records.foldlM Assembly.add assembly = .ok after ∧
      after.finish = .ok (chains ++ [passage.chain]) := by
  have first : assembly.add passage.head = .ok ⟨chains, some ⟨passage.name, passage.head.next, []⟩⟩ := by
    simp only [Assembly.add, valid.head, bind, Except.bind, finished]
    rfl
  have others := foldlM_plain chains ⟨passage.name, passage.head.next, []⟩ valid.plain
  refine ⟨⟨chains, some ⟨passage.name, passage.head.next, passage.rules ++ [passage.last]⟩⟩, ?_, ?_⟩
  · rw [Passage.records, List.cons_append, foldlM_cons_of_ok first]
    exact others
  · have closed : OpenChain.close ⟨passage.name, passage.head.next, passage.rules ++ [passage.last]⟩ =
        .ok passage.chain := OpenChain.close_eq_ok.mpr ⟨_, _, rfl, valid.last, rfl⟩
    simp only [Assembly.finish, closed, Except.map]

theorem foldlM_passages {assembly : Assembly} {chains : List Chain} {passages : List Passage}
    (finished : assembly.finish = .ok chains) (valid : ∀ passage ∈ passages, passage.Valid) :
    ∃ after, (passages.flatMap Passage.records).foldlM Assembly.add assembly = .ok after ∧
      after.finish = .ok (chains ++ passages.map Passage.chain) := by
  induction passages generalizing assembly chains with
  | nil => exact ⟨assembly, rfl, by simpa using finished⟩
  | cons passage rest ih =>
    obtain ⟨middle, folded, closed⟩ := foldlM_passage finished (valid passage (by simp))
    obtain ⟨after, others, complete⟩ := ih closed fun other member => valid other (by simp [member])
    refine ⟨after, ?_, by simpa using complete⟩
    rw [List.flatMap_cons, List.foldlM_append, folded]
    exact others

end Assembly

theorem Table.userChains_eq_ok {records : List Record} {chains : List Chain} :
    Table.userChains records = .ok chains ↔
      ∃ passages : List Passage, (∀ passage ∈ passages, passage.Valid) ∧
        records = passages.flatMap Passage.records ∧ chains = passages.map Passage.chain := by
  constructor
  · intro read
    obtain ⟨assembly, folded, finished⟩ := bind_eq_ok.mp read
    have empty : Assembly.empty.Holds [] := ⟨[], by simp, rfl, rfl, rfl⟩
    exact (empty.foldlM folded).finish finished
  · rintro ⟨passages, valid, rfl, rfl⟩
    obtain ⟨after, folded, finished⟩ := Assembly.foldlM_passages (show Assembly.empty.finish = .ok [] from rfl) valid
    exact bind_eq_ok.mpr ⟨after, folded, finished⟩

end FilterWatch
