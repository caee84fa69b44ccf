import FilterWatch.Collector.Events
import FilterWatch.Proofs.Decoding

/-! What collecting leaves behind. Nothing is printed and no error is logged, whether a pass comes to an end or
fails, and the kernel is asked for one snapshot and nothing else. -/

namespace FilterWatch

namespace Effect

/-- A message that is no error. -/
def IsNotice : Effect → Prop
  | log message => message.level ≠ .error
  | ask _ | print _ => False

/-- A request, or a message that is no error. -/
def IsQuiet : Effect → Prop
  | log message => message.level ≠ .error
  | ask _ => True
  | print _ => False

theorem IsRemark.notice {effect : Effect} (remark : effect.IsRemark) : effect.IsNotice := by
  cases effect with
  | log message => rcases remark with level | level <;> exact fun error => nomatch level.symm.trans error
  | ask request => exact remark.elim
  | print text => exact remark.elim

theorem IsNotice.quiet {effect : Effect} (notice : effect.IsNotice) : effect.IsQuiet := by
  cases effect with
  | log message => exact notice
  | ask request => exact notice.elim
  | print text => exact notice.elim

theorem IsNotice.no_request {effect : Effect} (notice : effect.IsNotice) : effect.request? = none := by
  cases effect with
  | ask request => exact notice.elim
  | log message => rfl
  | print text => rfl

theorem IsQuiet.no_print {effect : Effect} (quiet : effect.IsQuiet) : effect.printed? = none := by
  cases effect with
  | print text => exact quiet.elim
  | log message => rfl
  | ask request => rfl

theorem IsQuiet.no_error {effect : Effect} (quiet : effect.IsQuiet) : effect.textAt? .error = none := by
  cases effect with
  | log message => exact if_neg quiet
  | ask request => rfl
  | print text => rfl

end Effect

open Attempt

namespace Kernel

variable (kernel : Kernel) (table : String) (name : Bytes)

theorem readEntries_quiet (info : TableInfo) : (kernel.readEntries table name info).Leaves Effect.IsQuiet := by
  refine (Leaves.ask _ trivial).bind fun _ => ?_
  split
  · split
    · exact (Leaves.log _ nofun).bind fun _ => Leaves.done _
    · exact Leaves.failed _
  · refine (Leaves.ofExcept _).bind fun _ => (Leaves.log _ nofun).bind fun _ => ?_
    exact (Leaves.ofExcept _).map _

theorem readTable_quiet : (kernel.readTable table name).Leaves Effect.IsQuiet := by
  refine (Leaves.ask _ trivial).bind fun _ => ?_
  split
  · split
    · exact (Leaves.log _ nofun).bind fun _ => Leaves.done _
    · exact Leaves.failed _
  · refine (Leaves.ofExcept _).bind fun _ => (Leaves.ofExcept _).bind fun info => ?_
    exact kernel.readEntries_quiet table name info

theorem snapshot_quiet : (kernel.snapshot table).Leaves Effect.IsQuiet := by
  refine (Leaves.ofExcept _).bind fun name => (Leaves.ask _ trivial).bind fun _ => ?_
  have read : Leaves Effect.IsQuiet (do
      let outcome ← (kernel.readTable table name).caught
      Traced.ask .closeSocket
      Attempt.ofExcept outcome) := by
    refine (kernel.readTable_quiet table name).caught.bind fun outcome => ?_
    exact (Leaves.ask _ trivial).bind fun _ => Leaves.ofExcept outcome
  split
  · exact (Leaves.failed _).bind fun _ => read
  · exact read

end Kernel

namespace Collector

theorem collectRule_notices (config : CollectorConfig) (rule : Rule) :
    (collectRule config rule).Leaves Effect.IsNotice := by
  refine (rule.decode_remarks.mono fun _ => Effect.IsRemark.notice).caught.bind fun decoded => ?_
  cases decoded with
  | ok decoded => exact Leaves.done _
  | error error =>
    dsimp only
    split
    · exact (Leaves.failed _).bind fun _ => (Leaves.log _ nofun).bind fun _ => Leaves.done _
    · exact (Leaves.log _ nofun).bind fun _ => Leaves.done _

theorem collectChain_notices (config : CollectorConfig) (table : Table) (chain : Chain) :
    (collectChain config table chain).Leaves Effect.IsNotice := by
  unfold collectChain
  split
  · exact (Leaves.log _ nofun).bind fun _ => Leaves.done _
  · refine (Leaves.mapM (collectRule_notices config) _).bind fun rules => ?_
    exact (Leaves.ofExcept _).bind fun policy => Leaves.done _

theorem collectTable_notices (config : CollectorConfig) (table : Table) :
    (collectTable config table).Leaves Effect.IsNotice :=
  (Leaves.mapM (collectChain_notices config table) _).bind fun _ => Leaves.done _

variable {source : TableSource} {config : CollectorConfig} {origin : Origin}

theorem collect_quiet (quiet : (source config.table).Leaves Effect.IsQuiet) :
    (collect source config).Leaves Effect.IsQuiet := by
  refine (quiet.mapError _).bind fun table => ?_
  cases table with
  | none => exact (Leaves.log _ nofun).bind fun _ => Leaves.done _
  | some table =>
    refine ((collectTable_notices config table).mono fun _ => Effect.IsNotice.quiet).bind fun rules => ?_
    exact (Leaves.log _ nofun).bind fun _ => Leaves.done _

theorem events_quiet (quiet : (source config.table).Leaves Effect.IsQuiet) :
    (events source config origin).Leaves Effect.IsQuiet :=
  (collect_quiet quiet).bind fun _ => Leaves.done _

theorem collect_requests : (collect source config).requests = (source config.table).requests := by
  have taken : ((source config.table).mapError (CollectError.snapshot config.table)).requests =
      (source config.table).requests := congrArg (List.filterMap Effect.request?) (trace_mapError _ _)
  rw [collect, requests_bind, taken]
  cases ((source config.table).mapError (CollectError.snapshot config.table)).value with
  | error error => exact List.append_nil _
  | ok table =>
    cases table with
    | none => exact List.append_nil _
    | some table =>
      have reading : (collectTable config table).requests = [] :=
        (collectTable_notices config table).shows_nothing fun _ => Effect.IsNotice.no_request
      dsimp only
      rw [requests_bind, reading]
      cases (collectTable config table).value <;> exact List.append_nil _

theorem events_requests : (events source config origin).requests = (source config.table).requests := by
  rw [events, requests_bind, collect_requests]
  cases (collect source config).value <;> exact List.append_nil _

end Collector

end FilterWatch
