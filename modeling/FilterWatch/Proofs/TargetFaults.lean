import FilterWatch.Proofs.ByteReading
import FilterWatch.Proofs.Decoding
import FilterWatch.Proofs.UserChains

/-! How the target of a record can be missing or cut short, and who notices. Of everything that a rule
is asked for, its target and its action alone look at the target of its record. -/

namespace FilterWatch
open Proofs.Outcomes

inductive LayoutError.ConcernsTarget : LayoutError → Prop
  | missing (offset : Nat) : ConcernsTarget (.missingTarget offset)
  | cut (offset size : Nat) : ConcernsTarget (.invalidTargetSize offset size)

/-- If this fails, then for another reason than a target. -/
def IgnoresTargets (outcome : Except LayoutError α) : Prop :=
  ∀ error, outcome = .error error → ¬ error.ConcernsTarget

namespace IgnoresTargets

theorem ok (value : α) : IgnoresTargets (.ok value) := by
  intro error failed
  cases failed

theorem error {reason : LayoutError} (other : ¬ reason.ConcernsTarget) :
    IgnoresTargets (.error reason : Except LayoutError α) := by
  intro error failed
  cases failed
  exact other

theorem bind {first : Except LayoutError α} {next : α → Except LayoutError β} (early : IgnoresTargets first)
    (late : ∀ value, IgnoresTargets (next value)) : IgnoresTargets (first >>= next) := by
  cases first with
  | ok value => exact late value
  | error reason => exact error (early reason rfl)

theorem map {first : Except LayoutError α} (early : IgnoresTargets first) (f : α → β) :
    IgnoresTargets (first.map f) := by
  cases first with
  | ok value => exact ok (f value)
  | error reason => exact error (early reason rfl)

theorem ite {condition : Prop} [Decidable condition] {first second : Except LayoutError α}
    (yes : IgnoresTargets first) (no : IgnoresTargets second) :
    IgnoresTargets (if condition then first else second) := by
  split
  · exact yes
  · exact no

theorem mapM {items : List α} {f : α → Except LayoutError β} (each : ∀ item, IgnoresTargets (f item)) :
    IgnoresTargets (items.mapM f) := by
  induction items with
  | nil => exact ok []
  | cons item rest ih =>
    rw [List.mapM_cons]
    exact (each item).bind fun first => ih.bind fun others => ok (first :: others)

theorem passed {first : Except LayoutError α} {next : α → Except LayoutError β} (early : IgnoresTargets first)
    {reason : LayoutError} (failed : (first >>= next) = .error reason) (concerns : reason.ConcernsTarget) :
    ∃ value, first = .ok value ∧ next value = .error reason := by
  cases first with
  | ok value => exact ⟨value, rfl, failed⟩
  | error other =>
    cases failed
    exact absurd concerns (early reason rfl)

end IgnoresTargets

open IgnoresTargets

namespace Bytes

theorem slice_ignores (region : Bytes) (offset length : Nat) : IgnoresTargets (region.slice offset length) := by
  unfold slice
  split
  · exact ok _
  · exact error nofun

theorem byteAt_ignores (region : Bytes) (offset : Nat) : IgnoresTargets (region.byteAt offset) :=
  (slice_ignores region offset 1).map _

theorem word16At_ignores (region : Bytes) (offset : Nat) : IgnoresTargets (region.word16At offset) :=
  (slice_ignores region offset 2).map _

theorem int32At_ignores (region : Bytes) (offset : Nat) : IgnoresTargets (region.int32At offset) :=
  ((slice_ignores region offset 4).map _).map _

theorem addressAt_ignores (region : Bytes) (offset : Nat) : IgnoresTargets (region.addressAt offset) :=
  (slice_ignores region offset 4).map _

theorem nameAt_ignores (region : Bytes) (offset width : Nat) : IgnoresTargets (region.nameAt offset width) := by
  refine (slice_ignores region offset width).bind fun field => ite ?_ (error nofun)
  split
  · exact ok _
  · exact error nofun

end Bytes

namespace Match

theorem AddressRange.test_ignores (block : MatchBlock) (side : Side) : IgnoresTargets (AddressRange.test block side) := by
  have slot : IgnoresTargets (AddressRange.slotWidth block.revision) := ite (ok _) (ite (ok _) (error nofun))
  refine slot.bind fun slot => ite (error nofun) ((Bytes.byteAt_ignores _ _).bind fun flags => ?_)
  exact ite (ok _) ((Bytes.addressAt_ignores _ _).bind fun low => (Bytes.addressAt_ignores _ _).bind fun high => ok _)

theorem PortRange.test_ignores (form : PortRange.Form) (block : MatchBlock) (side : Side) :
    IgnoresTargets (PortRange.test form block side) := by
  refine ite (error nofun) ((Bytes.word16At_ignores _ _).bind fun low => ?_)
  exact (Bytes.word16At_ignores _ _).bind fun high => (Bytes.byteAt_ignores _ _).bind fun flags => ok _

theorem PortList.parse_ignores (data : Bytes) : IgnoresTargets (PortList.parse data) := by
  refine ite (ok _) ((Bytes.byteAt_ignores _ _).bind fun selector => ?_)
  split
  · refine (Bytes.byteAt_ignores _ _).bind fun count => ite (error nofun) ?_
    refine (IgnoresTargets.mapM fun _ => Bytes.word16At_ignores _ _).bind fun ports => ite (ok _) ?_
    exact (IgnoresTargets.mapM fun _ => Bytes.byteAt_ignores _ _).bind fun marks =>
      (Bytes.byteAt_ignores _ _).bind fun inverted => ok _
  · exact error nofun

theorem PortList.join_ignores (index : Nat) (ports : List (UInt16 × Bool)) : IgnoresTargets (PortList.join index ports) := by
  fun_induction PortList.join index ports with
  | case1 => exact ok _
  | case2 => exact error nofun
  | case3 _ _ _ _ _ ih => exact ih.map _
  | case4 _ _ _ ih => exact ih.map _

theorem PortList.test_ignores (list : PortList) : IgnoresTargets list.test := by
  cases list with
  | plain side ports => exact ok _
  | marked side ports inverted => exact (PortList.join_ignores _ _).map _

theorem PortList.testOf_ignores (block : MatchBlock) (side : Side) :
    IgnoresTargets (PortList.testOf block side).value := by
  rw [PortList.testOf, Attempt.value_bind]
  refine (PortList.parse_ignores block.data).bind fun list => ?_
  cases list with
  | none => exact ok _
  | some list =>
    simp only
    split
    · exact ok _
    · rw [Attempt.value_map]
      exact (PortList.test_ignores list).map _

end Match

namespace Record

theorem matchAt_ignores (record : Record) (position : Nat) : IgnoresTargets (record.matchAt position) := by
  refine (Bytes.word16At_ignores _ _).bind fun size => ite (error nofun) ?_
  exact (Bytes.slice_ignores _ _ _).bind fun block => (Bytes.nameAt_ignores _ _ _).bind fun name =>
    (Bytes.byteAt_ignores _ _).bind fun revision => (Bytes.slice_ignores _ _ _).bind fun data => ok _

theorem matchesFrom_ignores (record : Record) (position : Nat) :
    ∀ fault, (record.matchesFrom position).fault = some fault → ¬ fault.ConcernsTarget := by
  fun_induction matchesFrom record position with
  | case1 position inside fault failed =>
    intro other same
    cases same
    exact record.matchAt_ignores position fault failed
  | case2 position inside block found rest ih => exact ih
  | case3 position outside =>
    intro fault none
    cases none

end Record

namespace Rule

theorem rangeBlock_ignores {walk : MatchWalk} (other : ∀ fault, walk.fault = some fault → ¬ fault.ConcernsTarget) :
    IgnoresTargets (rangeBlock walk) := by
  unfold rangeBlock
  split
  · exact ok _
  next fault _ faulty => exact error (other fault faulty)
  · exact ok _

theorem headerTest_ignores (rule : Rule) (side : Side) : IgnoresTargets (rule.headerTest side) := by
  have address : ∀ side, IgnoresTargets (rule.record.address side) := fun side => by
    cases side <;> exact Bytes.addressAt_ignores _ _
  have mask : ∀ side, IgnoresTargets (rule.record.mask side) := fun side => by
    cases side <;> exact Bytes.addressAt_ignores _ _
  exact (address side).bind fun _ => (mask side).bind fun _ => ((Bytes.byteAt_ignores _ _).map _).bind fun _ => ok _

theorem address_ignores (rule : Rule) (side : Side) : IgnoresTargets (rule.address side) := by
  refine IgnoresTargets.map ?_ _
  refine (rangeBlock_ignores (rule.record.matchesFrom_ignores _)).bind fun block => ?_
  cases block with
  | none => exact headerTest_ignores rule side
  | some block =>
    refine (Match.AddressRange.test_ignores block side).bind fun test => ?_
    cases test with
    | none => exact headerTest_ignores rule side
    | some test => exact ok _

theorem blockPorts_ignores (chain : String) (block : MatchBlock) (side : Side) :
    IgnoresTargets (blockPorts chain block side).value := by
  unfold blockPorts
  split
  · exact Match.PortRange.test_ignores _ block side
  split
  · exact Match.PortRange.test_ignores _ block side
  split
  · exact Match.PortList.testOf_ignores block side
  · exact ok _

theorem firstPortTest_ignores (chain : String) (side : Side) {fault : Option LayoutError}
    (other : ∀ reason, fault = some reason → ¬ reason.ConcernsTarget) (blocks : List MatchBlock) :
    IgnoresTargets (firstPortTest chain side fault blocks).value := by
  induction blocks with
  | nil =>
    cases fault with
    | none => exact ok _
    | some reason => exact error (other reason rfl)
  | cons block rest ih =>
    rw [firstPortTest, Attempt.value_bind]
    refine (blockPorts_ignores chain block side).bind fun test => ?_
    cases test with
    | none => exact ih
    | some test => exact ok _

theorem port_ignores (rule : Rule) (side : Side) : IgnoresTargets (rule.port side).value := by
  rw [port, Attempt.value_map]
  exact (firstPortTest_ignores _ _ (rule.record.matchesFrom_ignores _) _).map _

theorem protocol_ignores (rule : Rule) : IgnoresTargets rule.protocol := by
  refine (Bytes.word16At_ignores _ _).bind fun number => ((Bytes.byteAt_ignores _ _).map _).bind fun inverted => ?_
  exact ite (ok _) (ite (ok _) (ite (ok _) (ite (ok _) (error nofun))))

/-- A rule that cannot be read because of its target has an action that cannot. -/
theorem action_of_decode {rule : Rule} {reason : LayoutError} (failed : rule.decode.value = .error reason)
    (concerns : reason.ConcernsTarget) : rule.action = .error reason := by
  simp only [decode, Attempt.value_bind, Attempt.value_ofExcept] at failed
  obtain ⟨_, _, failed⟩ := (address_ignores rule .source).passed failed concerns
  obtain ⟨_, _, failed⟩ := (address_ignores rule .destination).passed failed concerns
  obtain ⟨_, _, failed⟩ := (port_ignores rule .source).passed failed concerns
  obtain ⟨_, _, failed⟩ := (port_ignores rule .destination).passed failed concerns
  obtain ⟨_, _, failed⟩ := (protocol_ignores rule).passed failed concerns
  cases decided : rule.action with
  | ok action =>
    rw [decided] at failed
    cases failed
  | error other =>
    rw [decided] at failed
    cases failed
    rfl

end Rule

/-! ### Where targets are looked at -/

def Target.size (target : Target) : Nat := Record.blockHeaderSize + target.data.length

namespace Record

variable {record : Record}

theorem target_eq_none : record.target = .ok none ↔ record.targetOffset = record.size := by
  unfold target
  constructor
  · intro missing
    split at missing
    next noRoom => exact noRoom
    · simp only [bind_eq_ok] at missing
      obtain ⟨size, _, missing⟩ := missing
      split at missing
      · cases missing
      · simp only [bind_eq_ok] at missing
        obtain ⟨_, _, _, _, _, _, _, _, found⟩ := missing
        cases found
  · intro noRoom
    rw [if_pos noRoom]
    rfl

/-- A target is a block of the record that begins at the target offset and declares its size there. -/
theorem target_block {target : Target} (found : record.target = .ok (some target)) :
    record.bytes.word16At record.targetOffset = .ok (UInt16.ofNat target.size) ∧
      blockHeaderSize ≤ target.size ∧ record.targetOffset + target.size ≤ record.size := by
  unfold Record.target at found
  split at found
  · cases found
  · simp only [bind_eq_ok] at found
    obtain ⟨size, declared, found⟩ := found
    split at found
    · cases found
    next fits =>
      rw [not_or, Nat.not_lt, Nat.not_lt] at fits
      obtain ⟨block, _, found⟩ := bind_eq_ok.mp found
      obtain ⟨name, _, found⟩ := bind_eq_ok.mp found
      obtain ⟨revision, _, found⟩ := bind_eq_ok.mp found
      obtain ⟨data, own, found⟩ := bind_eq_ok.mp found
      cases found
      have length := Bytes.length_of_slice own
      have same : Target.size { name, revision, data } = size.toNat := by
        simp only [Target.size]
        omega
      rw [same, UInt16.ofNat_toNat]
      exact ⟨declared, fits⟩

/-- That a record has no target is a failure of those who want one, and not of reading it. -/
theorem target_ne_missing (offset : Nat) : record.target ≠ .error (.missingTarget offset) := by
  intro failed
  unfold target at failed
  split at failed
  · cases failed
  · obtain ⟨size, _, failed⟩ := (Bytes.word16At_ignores _ _).passed failed (.missing offset)
    dsimp only at failed
    split at failed
    · cases failed
    · obtain ⟨_, _, failed⟩ := (Bytes.slice_ignores _ _ _).passed failed (.missing offset)
      obtain ⟨_, _, failed⟩ := (Bytes.nameAt_ignores _ _ _).passed failed (.missing offset)
      obtain ⟨_, _, failed⟩ := (Bytes.byteAt_ignores _ _).passed failed (.missing offset)
      obtain ⟨_, _, failed⟩ := (Bytes.slice_ignores _ _ _).passed failed (.missing offset)
      cases failed

end Record

namespace Table

variable {table : Table} {record : Record}

theorem verdictName_ignores {found : Option Target} (read : record.target = .ok found) :
    IgnoresTargets (table.verdictName record) := by
  unfold verdictName
  rw [read, ok_bind]
  cases found with
  | none => exact ok _
  | some target =>
    refine ite (ok _) ((Bytes.int32At_ignores _ _).bind fun code => ?_)
    simp only
    split
    · exact ok _
    · refine ite (error nofun) (ite (ok _) ?_)
      split
      · exact ok _
      · exact error nofun

theorem verdictName_eq_none : table.verdictName record = .ok none ↔ record.targetOffset = record.size := by
  rw [← Record.target_eq_none]
  constructor
  · intro unnamed
    unfold verdictName at unnamed
    obtain ⟨found, read, unnamed⟩ := bind_eq_ok.mp unnamed
    cases found with
    | none => exact read
    | some target =>
      simp only at unnamed
      split at unnamed
      · cases unnamed
      · obtain ⟨code, _, unnamed⟩ := bind_eq_ok.mp unnamed
        split at unnamed
        · cases unnamed
        · split at unnamed
          · cases unnamed
          · split at unnamed
            · cases unnamed
            · split at unnamed <;> cases unnamed
  · intro missing
    rw [verdictName, missing, ok_bind]
    rfl

theorem verdictName_ne_missing (offset : Nat) : table.verdictName record ≠ .error (.missingTarget offset) := by
  intro failed
  cases read : record.target with
  | ok found => exact verdictName_ignores read _ failed (.missing offset)
  | error reason =>
    rw [verdictName, read] at failed
    cases failed
    exact record.target_ne_missing offset read

end Table

theorem Action.ofVerdict_some (name : String) (goto : Bool) (offset : Nat) :
    ∃ action, ofVerdict (some name) goto offset = .ok action := by
  cases goto with
  | true => exact ⟨_, rfl⟩
  | false =>
    simp only [ofVerdict, Bool.false_eq_true, if_false]
    split <;> exact ⟨_, rfl⟩

namespace Table

variable {table : Table} {record : Record} {chain : Chain} {offset : Nat}

/-- Whoever wants to know what a record decides misses the target exactly if there is no room for one. -/
theorem decides_eq_missing {goto : Bool} :
    (table.verdictName record >>= fun name => Action.ofVerdict name goto record.offset) =
        .error (.missingTarget offset) ↔ record.targetOffset = record.size ∧ offset = record.offset := by
  rw [← @verdictName_eq_none table]
  cases named : table.verdictName record with
  | ok name =>
    cases name with
    | none => simp [ok_bind, Action.ofVerdict, eq_comm]
    | some name =>
      obtain ⟨action, decided⟩ := Action.ofVerdict_some name goto record.offset
      simp [ok_bind, decided]
  | error reason =>
    have other := @verdictName_ne_missing table record offset
    rw [named] at other
    simpa [error_bind] using other

theorem policy_eq_missing (decides : chain.policy? = some record) :
    table.policy chain = .error (.missingTarget offset) ↔
      record.targetOffset = record.size ∧ offset = record.offset := by
  rw [policy, decides]
  exact decides_eq_missing

end Table

namespace Rule

variable {rule : Rule}

theorem action_eq_missing {offset : Nat} : rule.action = .error (.missingTarget offset) ↔
    rule.record.targetOffset = rule.record.size ∧ offset = rule.record.offset := by
  obtain ⟨goto, flag⟩ := rule.record.isGoto_total
  simp only [action, flag, ok_bind]
  exact Table.decides_eq_missing

theorem action_missing {found : Option Target} (read : rule.record.target = .ok found) {reason : LayoutError}
    (failed : rule.action = .error reason) (concerns : reason.ConcernsTarget) :
    reason = .missingTarget rule.record.offset ∧ rule.record.targetOffset = rule.record.size := by
  obtain ⟨goto, flag⟩ := rule.record.isGoto_total
  simp only [action, flag, ok_bind] at failed
  obtain ⟨name, named, decided⟩ := (Table.verdictName_ignores read).passed failed concerns
  cases name with
  | none =>
    cases decided
    exact ⟨rfl, Table.verdictName_eq_none.mp named⟩
  | some name =>
    obtain ⟨action, same⟩ := Action.ofVerdict_some name goto rule.record.offset
    cases same.symm.trans decided

end Rule

end FilterWatch
