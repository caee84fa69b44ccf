import FilterWatch.Rule
import FilterWatch.Proofs.Attempts

/-! Decoding a rule: what a success tells, and that nothing on the way warns. -/

namespace FilterWatch
open Proofs.Outcomes

namespace Table

theorem mem_rulesOf {table : Table} {owner : Chain} {rule : Rule} (member : rule ∈ table.rulesOf owner) :
    rule.table = table ∧ rule.chain = owner ∧ rule.record ∈ owner.rules := by
  obtain ⟨⟨record, place⟩, inside, rfl⟩ := List.mem_map.mp member
  exact ⟨rfl, rfl, List.fst_mem_of_mem_zipIdx inside⟩

end Table

/-- A message that only tells how far a computation is. -/
def Effect.IsRemark : Effect → Prop
  | log message => message.level = .debug ∨ message.level = .trace
  | ask _ | print _ => False

theorem Effect.IsRemark.no_warning {effect : Effect} (remark : effect.IsRemark) : effect.textAt? .warn = none := by
  cases effect with
  | log message =>
    refine if_neg fun warning => ?_
    rcases remark with level | level <;> cases level.symm.trans warning
  | ask request => rfl
  | print text => rfl

open Attempt

theorem Match.PortList.testOf_remarks (block : MatchBlock) (side : Side) :
    (testOf block side).Leaves Effect.IsRemark := by
  refine (Leaves.ofExcept _).bind fun list => ?_
  cases list with
  | none => exact (Leaves.log _ (.inl rfl)).bind fun _ => Leaves.done _
  | some list =>
    dsimp only
    split
    · exact Leaves.done _
    · exact (Leaves.ofExcept _).map _

namespace Rule

theorem blockPorts_remarks (chain : String) (block : MatchBlock) (side : Side) :
    (blockPorts chain block side).Leaves Effect.IsRemark := by
  unfold blockPorts
  split
  · exact Leaves.ofExcept _
  split
  · exact Leaves.ofExcept _
  split
  · exact Match.PortList.testOf_remarks block side
  · exact (Leaves.log _ (.inr rfl)).bind fun _ => Leaves.done _

theorem firstPortTest_remarks (chain : String) (side : Side) (fault : Option LayoutError) (blocks : List MatchBlock) :
    (firstPortTest chain side fault blocks).Leaves Effect.IsRemark := by
  induction blocks with
  | nil =>
    cases fault with
    | none => exact Leaves.done _
    | some fault => exact Leaves.failed fault
  | cons block rest ih =>
    refine (blockPorts_remarks chain block side).bind fun test => ?_
    cases test with
    | some test => exact Leaves.done _
    | none => exact ih

theorem port_remarks (rule : Rule) (side : Side) : (rule.port side).Leaves Effect.IsRemark :=
  (firstPortTest_remarks _ _ _ _).map _

theorem decode_remarks (rule : Rule) : rule.decode.Leaves Effect.IsRemark := by
  refine (Leaves.ofExcept _).bind fun _ => (Leaves.ofExcept _).bind fun _ => ?_
  refine (port_remarks rule .source).bind fun _ => (port_remarks rule .destination).bind fun _ => ?_
  exact (Leaves.ofExcept _).bind fun _ => (Leaves.ofExcept _).bind fun _ => Leaves.done _

/-- Reading a rule warns of nothing; that is left to whoever wants it read. -/
theorem decode_warnings (rule : Rule) : rule.decode.warnings = [] := by
  rw [Attempt.warnings, Traced.warnings_eq]
  exact rule.decode_remarks.shows_nothing fun _ => Effect.IsRemark.no_warning

theorem decode_sound {rule : Rule} {decoded : DecodedRule} (read : rule.decode.value = .ok decoded) :
    decoded.chain = rule.chain.name ∧ decoded.index = rule.index ∧ rule.action = .ok decoded.action := by
  simp only [decode, value_bind, bind_eq_ok] at read
  obtain ⟨_, _, _, _, _, _, _, _, _, _, action, decided, same⟩ := read
  cases same
  exact ⟨rfl, rfl, decided⟩

end Rule

end FilterWatch
