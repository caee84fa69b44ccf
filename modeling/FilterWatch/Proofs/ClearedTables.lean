import FilterWatch.Proofs.UnreadBytes

/-! Tables without what no one reads of their records. Chains are found, and verdicts named, as
before, since every step of reading a table commutes with clearing its records. -/

namespace FilterWatch
open Proofs.Outcomes

def ChainKind.cleared : ChainKind → ChainKind
  | .builtin hook policy => .builtin hook policy.cleared
  | .user => .user

namespace Chain

def cleared (chain : Chain) : Chain :=
  { chain with kind := chain.kind.cleared, rules := chain.rules.map Record.cleared }

variable (chain : Chain)

theorem cleared_hook? : chain.cleared.hook? = chain.hook? := by
  rcases chain with ⟨name, _ | _, start, rules⟩ <;> rfl

theorem cleared_policy? : chain.cleared.policy? = chain.policy?.map Record.cleared := by
  rcases chain with ⟨name, _ | _, start, rules⟩ <;> rfl

theorem cleared_spans (offset : Nat) : chain.cleared.spans offset = chain.spans offset := by
  rcases chain with ⟨name, _ | _, start, rules⟩ <;> rfl

theorem cleared_builtin (info : TableInfo) (records : List Record) (hook : Hook) :
    builtin info (records.map Record.cleared) hook = (builtin info records hook).map cleared := by
  have found : (records.map Record.cleared).find? (·.offset = (info.underflow.get hook).toNat) =
      (records.find? (·.offset = (info.underflow.get hook).toNat)).map Record.cleared := List.find?_map
  have known : (records.map Record.cleared).any (·.offset = (info.hookEntry.get hook).toNat) =
      records.any (·.offset = (info.hookEntry.get hook).toNat) := List.any_map
  unfold builtin
  simp only [found, known]
  cases records.find? (·.offset = (info.underflow.get hook).toNat) with
  | none => rfl
  | some policy =>
    simp only [Option.map_some]
    split
    · refine congrArg Except.ok ?_
      simp only [cleared, ChainKind.cleared, List.filter_map]
      rfl
    · rfl

end Chain

def OpenChain.cleared (chain : OpenChain) : OpenChain :=
  { chain with records := chain.records.map Record.cleared }

theorem OpenChain.cleared_close (chain : OpenChain) : chain.cleared.close = chain.close.map Chain.cleared := by
  have last : (chain.records.map Record.cleared).getLast? = chain.records.getLast?.map Record.cleared :=
    List.getLast?_map
  simp only [close, cleared, last]
  cases chain.records.getLast? with
  | none => rfl
  | some last =>
    simp only [Option.map_some, last.cleared_target]
    cases last.target with
    | error error => rfl
    | ok target =>
      cases target with
      | none => rfl
      | some target =>
        simp only [ok_bind]
        split
        · cases target.verdict with
          | error error => rfl
          | ok code =>
            simp only [ok_bind]
            split
            · refine congrArg Except.ok ?_
              simp only [Chain.cleared, ChainKind.cleared, List.map_dropLast]
            · rfl
        · rfl

namespace Assembly

def cleared (assembly : Assembly) : Assembly :=
  ⟨assembly.finished.map Chain.cleared, assembly.current.map OpenChain.cleared⟩

theorem cleared_finish (assembly : Assembly) : assembly.cleared.finish = assembly.finish.map (·.map Chain.cleared) := by
  rcases assembly with ⟨finished, _ | current⟩
  · rfl
  · simp only [finish, cleared, Option.map_some, OpenChain.cleared_close]
    cases current.close with
    | error error => rfl
    | ok chain => simp [Except.map]

theorem cleared_add (assembly : Assembly) (record : Record) :
    assembly.cleared.add record.cleared = (assembly.add record).map cleared := by
  simp only [add, record.cleared_errorName]
  cases record.errorName with
  | error error => rfl
  | ok name =>
    cases name with
    | some name =>
      simp only [ok_bind, cleared_finish, record.cleared_next]
      cases assembly.finish <;> rfl
    | none =>
      rcases assembly with ⟨finished, _ | current⟩
      · rfl
      · simp [ok_bind, cleared, OpenChain.cleared, pure, Except.pure, Except.map]

end Assembly

namespace Table

def cleared (table : Table) : Table := { table with chains := table.chains.map Chain.cleared }

theorem cleared_userChains (records : List Record) :
    userChains (records.map Record.cleared) = (userChains records).map (·.map Chain.cleared) := by
  have folded : (records.map Record.cleared).foldlM Assembly.add Assembly.empty =
      (records.foldlM Assembly.add Assembly.empty).map Assembly.cleared :=
    foldlM_map Assembly.cleared_add records Assembly.empty
  rw [userChains, userChains, folded]
  cases records.foldlM Assembly.add Assembly.empty with
  | error error => rfl
  | ok assembly => exact assembly.cleared_finish

theorem cleared_mergeSort (chains : List Chain) :
    (chains.map Chain.cleared).mergeSort nameLe = (chains.mergeSort nameLe).map Chain.cleared := by
  have order : ∀ left ∈ chains, ∀ right ∈ chains, nameLe left right = nameLe left.cleared right.cleared :=
    fun _ _ _ _ => rfl
  exact (List.map_mergeSort order).symm

theorem cleared_filter (builtin : List Chain) (records : List Record) :
    (records.map Record.cleared).filter (fun record => !(builtin.map Chain.cleared).any (·.spans record.offset)) =
      (records.filter fun record => !builtin.any (·.spans record.offset)).map Record.cleared := by
  rw [List.filter_map]
  refine congrArg (List.map _) (List.filter_congr fun record _ => ?_)
  rw [Function.comp_apply, List.any_map]
  exact congrArg _ (congrArg builtin.any (funext fun chain => chain.cleared_spans record.offset))

theorem cleared_ofRecords (info : TableInfo) (records : List Record) :
    ofRecords info (records.map Record.cleared) = (ofRecords info records).map cleared := by
  have last : (records.map Record.cleared).getLast? = records.getLast?.map Record.cleared := List.getLast?_map
  have body : (records.map Record.cleared).dropLast = records.dropLast.map Record.cleared := List.map_dropLast.symm
  simp only [ofRecords, List.length_map, last, body]
  split
  · rfl
  cases records.getLast? with
  | none => rfl
  | some last =>
    simp only [Option.map_some, last.cleared_errorName]
    cases last.errorName with
    | error error => rfl
    | ok name =>
      simp only [ok_bind]
      split
      · rfl
      have spanned : (Hook.all.filter (·.isIn info.validHooks)).mapM
          (Chain.builtin info (records.dropLast.map Record.cleared)) =
          ((Hook.all.filter (·.isIn info.validHooks)).mapM (Chain.builtin info records.dropLast)).map
            (·.map Chain.cleared) := by
        rw [← mapM_map_eq]
        exact mapM_congr fun hook _ => Chain.cleared_builtin info records.dropLast hook
      rw [spanned]
      cases (Hook.all.filter (·.isIn info.validHooks)).mapM (Chain.builtin info records.dropLast) with
      | error error => rfl
      | ok builtin =>
        simp only [Except.map, ok_bind, cleared_filter, cleared_userChains]
        cases userChains (records.dropLast.filter fun record => !builtin.any (·.spans record.offset)) with
        | error error => rfl
        | ok user =>
          refine congrArg Except.ok ?_
          simp only [cleared, cleared_mergeSort, List.map_append]

theorem ofSnapshot_of_differ {first second : Bytes} (differ : DifferUnread first second 0) (info : TableInfo) :
    (ofSnapshot info first).map cleared = (ofSnapshot info second).map cleared := by
  have step : ∀ entries, (ofSnapshot info entries).map cleared =
      (recordsFrom entries 0).map (·.map Record.cleared) >>= ofRecords info := by
    intro entries
    rw [ofSnapshot]
    cases recordsFrom entries 0 with
    | error error => rfl
    | ok records => exact (cleared_ofRecords info records).symm
  rw [step, step, differ.recordsFrom]

variable (table : Table)

theorem cleared_chainAt? (offset : Nat) : table.cleared.chainAt? offset = (table.chainAt? offset).map Chain.cleared := by
  rw [chainAt?, cleared, List.find?_map]
  refine congrArg (Option.map _) (congrArg (List.find? · table.chains) (funext fun chain => ?_))
  simp only [Function.comp, chain.cleared_hook?]
  rfl

theorem cleared_verdictName (record : Record) : table.cleared.verdictName record.cleared = table.verdictName record := by
  simp only [verdictName, record.cleared_target, record.cleared_next, cleared_chainAt?]
  cases record.target with
  | error error => rfl
  | ok target =>
  cases target with
  | none => rfl
  | some target =>
    simp only [ok_bind]
    split
    · rfl
    cases target.verdict with
    | error error => rfl
    | ok code =>
      simp only [ok_bind]
      cases table.chainAt? code.toInt.toNat <;> rfl

theorem cleared_policy (chain : Chain) : table.cleared.policy chain.cleared = table.policy chain := by
  rw [policy, chain.cleared_policy?, policy]
  cases chain.policy? with
  | none => rfl
  | some record =>
    simp only [Option.map_some, cleared_verdictName]
    rfl

end Table

end FilterWatch
