import FilterWatch.Proofs.HookSpans

/-! Where jumps lead in an accepted table. The record before the start of a user chain is the head
of the chain, which does not jump; so falling through is never mistaken for a jump to a chain. -/

namespace FilterWatch
open Proofs.Outcomes

theorem Verdict.name?_of_nonneg {code : Int32} (jump : 0 ≤ code.toInt) : Verdict.name? code = none := by
  have differs : ∀ other : Int32, other.toInt < 0 → code ≠ other := by
    rintro other negative rfl
    omega
  unfold Verdict.name?
  rw [if_neg (differs _ (by decide)), if_neg (differs _ (by decide)), if_neg (differs _ (by decide)),
    if_neg (differs _ (by decide))]

namespace Table

variable {table : Table} {record : Record} {target : Target} {code : Int32}

theorem verdictName_extension (found : record.target = .ok (some target)) (other : target.isStandard = false) :
    table.verdictName record = .ok (some target.name) := by
  simp only [verdictName, found, other, bind, Except.bind]
  rfl

theorem verdictName_standard {name : String} (found : record.target = .ok (some target))
    (standard : target.isStandard = true) (decoded : target.verdict = .ok code)
    (named : Verdict.name? code = some name) : table.verdictName record = .ok (some name) := by
  simp only [verdictName, found, standard, decoded, named, bind, Except.bind]
  rfl

theorem verdictName_destination (found : record.target = .ok (some target))
    (standard : target.isStandard = true) (decoded : target.verdict = .ok code) (jump : 0 ≤ code.toInt) :
    table.verdictName record =
      if code.toInt.toNat = record.next then .ok (some "")
      else match table.chainAt? code.toInt.toNat with
        | some chain => .ok (some chain.name)
        | none => .error (.invalidJump code) := by
  have nonnegative : ¬ code < 0 := by
    rw [Int32.lt_iff_toInt_lt]
    exact Int.not_lt.mpr jump
  simp only [verdictName, found, standard, decoded, Verdict.name?_of_nonneg jump, bind, Except.bind]
  simp only [Bool.not_true, Bool.false_eq_true, if_false, if_neg nonnegative]
  split
  · rfl
  · cases table.chainAt? code.toInt.toNat <;> rfl

end Table

namespace Anatomy

variable {info : TableInfo} {entries : Bytes} {body : List Record} {closing : Record}
  {builtin : List Chain} {passages : List Passage}

theorem chainAt?_head (anatomy : Anatomy info entries body closing builtin passages) {passage : Passage}
    (member : passage ∈ passages) :
    Table.chainAt? ⟨info, Passage.listed builtin passages⟩ passage.head.next = some passage.chain := by
  unfold Table.chainAt?
  cases found : (Passage.listed builtin passages).find?
      fun chain => chain.hook?.isNone && chain.start = passage.head.next with
  | none =>
    have missing := List.find?_eq_none.mp found passage.chain (mem_listed.mpr (.inr ⟨passage, member, rfl⟩))
    simp [Passage.chain, Chain.hook?] at missing
  | some chain =>
    have fits := List.find?_some found
    simp only [Bool.and_eq_true, decide_eq_true_eq] at fits
    have listed := List.mem_of_find?_eq_some found
    rcases mem_listed.mp listed with hooked | ⟨other, present, rfl⟩
    · have hook := anatomy.hook_of_builtin hooked
      simp [Option.isNone_iff_eq_none.mp fits.1] at hook
    · exact congrArg (some ∘ Passage.chain) (anatomy.division.eq_of_head present member fits.2)

theorem next_ne_start (anatomy : Anatomy info entries body closing builtin passages) {passage : Passage}
    (member : passage ∈ passages) {record : Record} (inside : record ∈ body) {target : Target}
    (found : record.target = .ok (some target)) (standard : target.isStandard = true) :
    passage.head.next ≠ record.next := by
  intro same
  have headInside := anatomy.mem_body_of_passage member passage.head_mem
  have equal := anatomy.consecutive.eq_of_next (List.mem_append_left _ headInside)
    (List.mem_append_left _ inside) same
  have named := (anatomy.valid passage member).head
  rw [equal, Record.errorName_of_standard found standard] at named
  cases named

theorem verdictName_jump (anatomy : Anatomy info entries body closing builtin passages) {passage : Passage}
    (member : passage ∈ passages) {record : Record} (inside : record ∈ body) {target : Target} {code : Int32}
    (found : record.target = .ok (some target)) (standard : target.isStandard = true)
    (decoded : target.verdict = .ok code) (leads : code.toInt = passage.head.next) :
    Table.verdictName ⟨info, Passage.listed builtin passages⟩ record = .ok (some passage.name) := by
  have destination : code.toInt.toNat = passage.head.next := by omega
  rw [Table.verdictName_destination found standard decoded (by omega), destination,
    if_neg (anatomy.next_ne_start member inside found standard), anatomy.chainAt?_head member]
  rfl

end Anatomy

end FilterWatch
