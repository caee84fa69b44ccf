import FilterWatch.Draft.Table
import FilterWatch.Proofs.DraftRecords
import FilterWatch.Proofs.JumpResolution

/-! The targets that the rules of a draft may have, the names under which they are given, and what
is read of each of them in the record that it becomes. -/

namespace FilterWatch
open Proofs.Outcomes

/-- The verdicts that need no destination, with their names and the actions that they stand for. -/
def Verdict.meanings : List (Int32 × String × Action) :=
  [(accept, "ACCEPT", .allow), (drop, "DROP", .deny), (queue, "QUEUE", .other "QUEUE"),
    (ret, "RETURN", .other "RETURN")]

theorem Verdict.meanings_named :
    ∀ entry ∈ meanings, name? entry.1 = some entry.2.1 ∧ Action.ofName entry.2.1 = entry.2.2 ∧ entry.2.1 ≠ "" := by
  decide

theorem Verdict.lookup_meanings : ∀ entry ∈ meanings, meanings.lookup entry.1 = some entry.2 := by decide

namespace TargetDraft

/-- The targets of rules, when the user chains have these names. -/
def Admitted (names : List String) : TargetDraft → Prop
  | .verdict code => code ∈ Verdict.meanings.map Prod.fst
  | .jump chain | .goto chain => chain ∈ names
  | .fallthrough => True
  | .extension name _ =>
    name ≠ "" ∧ name ≠ "ERROR" ∧ (Bytes.ofText name).length ≤ 28 ∧ 0 ∉ Bytes.ofText name
  | .head _ => False

instance (names : List String) : (target : TargetDraft) → Decidable (target.Admitted names)
  | .verdict code => inferInstanceAs (Decidable (code ∈ Verdict.meanings.map Prod.fst))
  | .jump chain | .goto chain => inferInstanceAs (Decidable (chain ∈ names))
  | .fallthrough => .isTrue trivial
  | .extension name _ => inferInstanceAs (Decidable (name ≠ "" ∧ name ≠ "ERROR" ∧
      (Bytes.ofText name).length ≤ 28 ∧ 0 ∉ Bytes.ofText name))
  | .head _ => .isFalse id

/-- The name under which a target is given. -/
def named : TargetDraft → Option String
  | .verdict code => (Verdict.meanings.lookup code).map Prod.fst
  | .jump chain | .goto chain => some chain
  | .fallthrough => some ""
  | .extension name _ => some name
  | .head _ => none

end TargetDraft

namespace RuleDraft

variable {rule : RuleDraft} {startOf : String → Except DraftError Nat} {offset : Nat}

/-! ### Contents by kind -/

private theorem content_standard {number : Nat}
    (content : rule.targetContent startOf offset = .ok (Record.standardTarget, Bytes.ofNat 4 number))
    (sized : rule.targetSize = 40) :
    rule.Content startOf offset Record.standardTarget (Bytes.ofNat 4 number) :=
  ⟨content, by decide, by decide, by rw [sized, Bytes.length_ofNat]; decide⟩

theorem content_of_verdict {code : Int32} (given : rule.target = .verdict code) :
    rule.Content startOf offset Record.standardTarget (Bytes.ofNat 4 code.toUInt32.toNat) :=
  content_standard (by simp only [targetContent, given]; rfl) (by simp only [targetSize, given]; rfl)

theorem content_of_jump {chain : String} {start : Nat}
    (given : rule.target = .jump chain ∨ rule.target = .goto chain) (starts : startOf chain = .ok start) :
    rule.Content startOf offset Record.standardTarget (Bytes.ofNat 4 start) := by
  rcases given with given | given <;>
    exact content_standard (by simp only [targetContent, given, starts]; rfl)
      (by simp only [targetSize, given]; rfl)

theorem content_of_fallthrough (given : rule.target = .fallthrough) :
    rule.Content startOf offset Record.standardTarget (Bytes.ofNat 4 (offset + rule.size)) :=
  content_standard (by simp only [targetContent, given]) (by simp only [targetSize, given]; rfl)

theorem content_of_extension {name : String} {data : Bytes} (given : rule.target = .extension name data)
    (short : (Bytes.ofText name).length ≤ 28) (plain : 0 ∉ Bytes.ofText name) :
    rule.Content startOf offset name data := by
  refine ⟨by simp only [targetContent, given], Nat.lt_succ_of_le short, plain, ?_⟩
  simp only [targetSize, given, Draft.align]
  omega

theorem content_of_head {chain : String} (given : rule.target = .head chain)
    (short : (Bytes.ofText chain).length ≤ 29) :
    rule.Content startOf offset Record.errorTarget (Bytes.ofText chain) := by
  have fits : (Bytes.ofText chain).length < Record.chainNameWidth := Nat.lt_succ_of_le short
  refine ⟨by simp only [targetContent, given, if_pos fits], by decide, by decide, ?_⟩
  simp only [targetSize, given, Draft.align, Record.blockHeaderSize, Record.chainNameWidth]
  omega

theorem content_of_admitted {names : List String} (admitted : rule.target.Admitted names)
    (resolved : ∀ name ∈ names, ∃ start, startOf name = .ok start) :
    ∃ name data, rule.Content startOf offset name data ∧ name ≠ Record.errorTarget := by
  have standard : Record.standardTarget ≠ Record.errorTarget := by decide
  cases given : rule.target with
  | verdict code => exact ⟨_, _, content_of_verdict given, standard⟩
  | jump chain =>
    rw [given] at admitted
    obtain ⟨start, starts⟩ := resolved chain admitted
    exact ⟨_, _, content_of_jump (.inl given) starts, standard⟩
  | goto chain =>
    rw [given] at admitted
    obtain ⟨start, starts⟩ := resolved chain admitted
    exact ⟨_, _, content_of_jump (.inr given) starts, standard⟩
  | «fallthrough» => exact ⟨_, _, content_of_fallthrough given, standard⟩
  | extension name data =>
    rw [given] at admitted
    exact ⟨name, data, content_of_extension given admitted.2.2.1 admitted.2.2.2, admitted.2.1⟩
  | head chain =>
    rw [given] at admitted
    exact admitted.elim

namespace Content

/-! ### Readings by kind -/

theorem image_next {name : String} {data : Bytes} (content : rule.Content startOf offset name data) :
    (rule.image startOf offset).next = offset + rule.size := by
  rw [Record.next, content.image_size]
  rfl

theorem image_errorName {name : String} {data : Bytes} (content : rule.Content startOf offset name data)
    (short : rule.size < 65536) (other : name ≠ Record.errorTarget) :
    (rule.image startOf offset).errorName = .ok none := by
  simp only [Record.errorName, content.image_target short, bind, Except.bind, Target.errorName, if_neg other]

theorem image_head {chain : String}
    (content : rule.Content startOf offset Record.errorTarget (Bytes.ofText chain)) (given : rule.target = .head chain)
    (short : rule.size < 65536) (fits : (Bytes.ofText chain).length ≤ 29) (plain : 0 ∉ Bytes.ofText chain) :
    (rule.image startOf offset).errorName = .ok (some chain) := by
  have room : rule.targetSize - Record.blockHeaderSize = 32 := by
    simp only [targetSize, given]
    rfl
  have field : (Bytes.ofText chain).padTo 32 =
      [] ++ (Bytes.ofText chain).padTo Record.chainNameWidth ++ Bytes.zeros 2 := by
    simp only [Bytes.padTo, List.nil_append, List.append_assoc, ← Bytes.zeros_add]
    congr 2
    simp only [Record.chainNameWidth]
    omega
  have read : Bytes.nameAt _ 0 Record.chainNameWidth = .ok chain :=
    Bytes.nameAt_padded [] chain (Bytes.zeros 2) rfl (Nat.lt_succ_of_le fits) plain
  simp only [Record.errorName, content.image_target short, bind, Except.bind, Target.errorName, if_true, room,
    field, read]
  rfl

theorem image_standard {number : Nat}
    (content : rule.Content startOf offset Record.standardTarget (Bytes.ofNat 4 number)) (short : rule.size < 65536) :
    ∃ target, (rule.image startOf offset).target = .ok (some target) ∧ target.isStandard = true ∧
      target.verdict = .ok (UInt32.ofNat number).toInt32 := by
  refine ⟨_, content.image_target short, by simp [Target.isStandard], ?_⟩
  have word : Bytes.word32At ([] ++ Bytes.ofNat 4 number ++ _) 0 = .ok (UInt32.ofNat number) :=
    Bytes.word32At_middle [] number
      (Bytes.zeros (rule.targetSize - Record.blockHeaderSize - (Bytes.ofNat 4 number).length)) rfl
  rw [List.nil_append] at word
  simp only [Target.verdict, Bytes.int32At, Bytes.padTo, word]
  rfl

end Content

/-! ### Names of the targets -/

theorem image_verdict {code : Int32} (given : rule.target = .verdict code) (short : rule.size < 65536) :
    ∃ target, (rule.image startOf offset).target = .ok (some target) ∧ target.isStandard = true ∧
      target.verdict = .ok code := by
  obtain ⟨target, found, standard, decoded⟩ := (content_of_verdict given).image_standard short
  refine ⟨target, found, standard, decoded.trans ?_⟩
  rw [UInt32.ofNat_toNat, Int32.toInt32_toUInt32]

theorem verdictName_verdict (table : Table) {entry : Int32 × String × Action} (known : entry ∈ Verdict.meanings)
    (given : rule.target = .verdict entry.1) (short : rule.size < 65536) :
    table.verdictName (rule.image startOf offset) = .ok (some entry.2.1) := by
  obtain ⟨target, found, standard, decoded⟩ := image_verdict given short
  exact Table.verdictName_standard found standard decoded (Verdict.meanings_named entry known).1

theorem toInt_ofNat {number : Nat} (small : number < 2147483648) :
    (UInt32.ofNat number).toInt32.toInt = number := by
  have whole : (UInt32.ofNat number).toInt32.toBitVec.toNat = number := by
    simp only [UInt32.toBitVec_toInt32, UInt32.toNat_toBitVec, UInt32.toNat_ofNat']
    omega
  rw [Int32.toInt, BitVec.toInt_eq_toNat_of_lt (by omega), whole]

theorem verdictName_fallthrough (table : Table) (given : rule.target = .fallthrough) (short : rule.size < 65536)
    (small : offset + rule.size < 2147483648) :
    table.verdictName (rule.image startOf offset) = .ok (some "") := by
  have content : rule.Content startOf offset _ _ := content_of_fallthrough given
  obtain ⟨target, found, standard, decoded⟩ := content.image_standard short
  have destination := toInt_ofNat small
  rw [Table.verdictName_destination found standard decoded (by omega), destination, Int.toNat_natCast,
    if_pos content.image_next.symm]

theorem verdictName_extension (table : Table) {name : String} {data : Bytes}
    (given : rule.target = .extension name data) (admitted : (TargetDraft.extension name data).Admitted names)
    (short : rule.size < 65536) : table.verdictName (rule.image startOf offset) = .ok (some name) := by
  obtain ⟨nonempty, _, named, plain⟩ := admitted
  refine Table.verdictName_extension ((content_of_extension given named plain).image_target short) ?_
  simp [Target.isStandard, Record.standardTarget, nonempty]

end RuleDraft

end FilterWatch
