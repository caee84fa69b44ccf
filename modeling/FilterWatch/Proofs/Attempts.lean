import FilterWatch.Trace
import FilterWatch.Proofs.Outcomes

/-! What an attempt comes to and which warnings it leaves, computed from its parts. The warnings of
a failed attempt are those from before the failure. -/

namespace FilterWatch
open Proofs.Outcomes

/-- The text of a message at a level. -/
def Effect.textAt? (level : Level) : Effect → Option String
  | log message => if message.level = level then some message.text else none
  | ask _ | print _ => none

namespace Traced

/-- The texts of the warnings, the earliest first. -/
def warnings (run : Traced α) : List String := (run.messages.filter (·.level = .warn)).map Message.text

theorem warnings_eq (run : Traced α) : run.warnings = run.trace.filterMap (Effect.textAt? .warn) := by
  unfold warnings messages
  induction run.trace with
  | nil => rfl
  | cons effect rest ih =>
    cases effect with
    | log message =>
      by_cases warning : message.level = .warn
      · simpa [Effect.message?, Effect.textAt?, warning] using ih
      · simpa [Effect.message?, Effect.textAt?, warning] using ih
    | ask request => exact ih
    | print text => exact ih

instance : LawfulMonad Traced := LawfulMonad.mk' Traced
  (fun run => by simp only [Functor.map, Function.comp, List.append_nil]; rfl)
  (fun value next => by simp only [bind, pure, List.nil_append])
  (fun run next last => by simp only [bind, List.append_assoc])

theorem warnings_bind (first : Traced α) (next : α → Traced β) :
    (first >>= next).warnings = first.warnings ++ (next first.value).warnings := by
  simp only [warnings, messages, bind, List.filterMap_append, List.filter_append, List.map_append]

theorem warnings_map (f : α → β) (run : Traced α) : (f <$> run).warnings = run.warnings := by
  rw [← bind_pure_comp, warnings_bind]
  exact List.append_nil _

end Traced

namespace Attempt

def value (attempt : Attempt ε α) : Except ε α := attempt.outcome.value

def warnings (attempt : Attempt ε α) : List String := attempt.outcome.warnings

def trace (attempt : Attempt ε α) : List Effect := attempt.outcome.trace

def requests (attempt : Attempt ε α) : List Request := attempt.outcome.requests

/-- The texts of the errors in the log, the earliest first. -/
def errors (attempt : Attempt ε α) : List String := attempt.trace.filterMap (Effect.textAt? .error)

def printed (attempt : Attempt ε α) : List String := attempt.trace.filterMap Effect.printed?

theorem ext {first second : Attempt ε α} (value : first.value = second.value) (trace : first.trace = second.trace) :
    first = second := by
  rcases first with ⟨_, _⟩
  rcases second with ⟨_, _⟩
  cases value
  cases trace
  rfl

theorem value_pure (value : α) : Attempt.value (pure value : Attempt ε α) = .ok value := rfl

theorem value_throw (error : ε) : Attempt.value (throw error : Attempt ε α) = .error error := rfl

theorem value_ofExcept (result : Except ε α) : (ofExcept result).value = result := rfl

theorem value_caught (attempt : Attempt ε α) : (attempt.caught : Attempt δ _).value = .ok attempt.value := rfl

theorem value_log (level : Level) (text : String) :
    Attempt.value (Traced.log level text : Attempt ε Unit) = .ok () := rfl

theorem value_ask (request : Request) : Attempt.value (Traced.ask request : Attempt ε Unit) = .ok () := rfl

theorem value_bind (first : Attempt ε α) (next : α → Attempt ε β) :
    Attempt.value (first >>= next) = first.value >>= fun value => (next value).value := by
  show ((ExceptT.run first) >>= ExceptT.bindCont next).value = _
  cases same : first.value with
  | ok value =>
    have there : (ExceptT.run first).value = .ok value := same
    simp only [bind, there]
    rfl
  | error error =>
    have there : (ExceptT.run first).value = .error error := same
    simp only [bind, there]
    rfl

theorem value_map (f : α → β) (attempt : Attempt ε α) : Attempt.value (f <$> attempt) = attempt.value.map f := by
  rw [← bind_pure_comp, value_bind]
  cases attempt.value <;> rfl

theorem value_mapError (f : ε → δ) (attempt : Attempt ε α) :
    (attempt.mapError f).value = attempt.value.mapError f := rfl

theorem value_mapM (f : α → Attempt ε β) (items : List α) :
    Attempt.value (items.mapM f) = items.mapM fun item => (f item).value := by
  induction items with
  | nil => rfl
  | cons item rest ih =>
    simp only [List.mapM_cons, value_bind, ih]
    rfl

theorem warnings_pure (value : α) : Attempt.warnings (pure value : Attempt ε α) = [] := rfl

theorem warnings_ofExcept (result : Except ε α) : (ofExcept result).warnings = [] := rfl

theorem warnings_log (level : Level) (text : String) :
    Attempt.warnings (Traced.log level text : Attempt ε Unit) = if level = .warn then [text] else [] := by
  cases level <;> rfl

/-- The second part of an attempt leaves its trace behind that of the first, if it is reached. -/
theorem trace_bind (first : Attempt ε α) (next : α → Attempt ε β) :
    Attempt.trace (first >>= next) = first.trace ++
      match first.value with
      | .ok value => (next value).trace
      | .error _ => [] := by
  show ((ExceptT.run first) >>= ExceptT.bindCont next).trace = _
  cases same : first.value with
  | ok value =>
    have there : (ExceptT.run first).value = .ok value := same
    simp only [bind, there]
    rfl
  | error error =>
    have there : (ExceptT.run first).value = .error error := same
    simp only [bind, there]
    rfl

theorem trace_ofExcept (result : Except ε α) : (ofExcept result).trace = [] := rfl

theorem trace_map (f : α → β) (attempt : Attempt ε α) : Attempt.trace (f <$> attempt) = attempt.trace := by
  rw [← bind_pure_comp, trace_bind]
  cases attempt.value <;> exact List.append_nil _

theorem trace_mapError (f : ε → δ) (attempt : Attempt ε α) : (attempt.mapError f).trace = attempt.trace :=
  List.append_nil attempt.trace

theorem trace_caught (attempt : Attempt ε α) : (attempt.caught : Attempt δ _).trace = attempt.trace :=
  List.append_nil attempt.trace

theorem forM_of_ok {f : α → Attempt ε Unit} {items : List α} (each : ∀ item ∈ items, (f item).value = .ok ()) :
    Attempt.value (items.forM f) = .ok () ∧
      Attempt.trace (items.forM f) = items.flatMap fun item => (f item).trace := by
  simp only [List.forM_eq_forM]
  induction items with
  | nil => exact ⟨rfl, rfl⟩
  | cons item rest ih =>
    obtain ⟨value, trace⟩ := ih fun other member => each other (by simp [member])
    have first := each item (by simp)
    rw [List.forM_cons, value_bind, trace_bind, first, List.flatMap_cons]
    exact ⟨value, congrArg (_ ++ ·) trace⟩

theorem warnings_bind (first : Attempt ε α) (next : α → Attempt ε β) :
    Attempt.warnings (first >>= next) = first.warnings ++
      match first.value with
      | .ok value => (next value).warnings
      | .error _ => [] := by
  have joined : (Attempt.outcome (first >>= next)).trace = _ := trace_bind first next
  simp only [warnings, Traced.warnings, Traced.messages, joined, List.filterMap_append, List.filter_append,
    List.map_append]
  cases first.value <;> rfl

theorem requests_bind (first : Attempt ε α) (next : α → Attempt ε β) :
    Attempt.requests (first >>= next) = first.requests ++
      match first.value with
      | .ok value => (next value).requests
      | .error _ => [] := by
  have joined : (Attempt.outcome (first >>= next)).trace = _ := trace_bind first next
  simp only [requests, Traced.requests, joined, List.filterMap_append]
  cases first.value <;> rfl

theorem requests_throw (error : ε) : Attempt.requests (throw error : Attempt ε α) = [] := rfl

theorem requests_ofExcept (result : Except ε α) : (ofExcept result).requests = [] := rfl

theorem requests_log (level : Level) (text : String) :
    Attempt.requests (Traced.log level text : Attempt ε Unit) = [] := rfl

theorem requests_ask (request : Request) :
    Attempt.requests (Traced.ask request : Attempt ε Unit) = [request] := rfl

theorem requests_map (f : α → β) (attempt : Attempt ε α) :
    Attempt.requests (f <$> attempt) = attempt.requests := by
  rw [← bind_pure_comp, requests_bind]
  cases attempt.value <;> exact List.append_nil _

theorem requests_caught (attempt : Attempt ε α) :
    (attempt.caught : Attempt δ _).requests = attempt.requests :=
  congrArg (List.filterMap Effect.request?) (trace_caught attempt)

theorem warnings_mapError (f : ε → δ) (attempt : Attempt ε α) :
    (attempt.mapError f).warnings = attempt.warnings := Traced.warnings_map _ _

theorem warnings_caught (attempt : Attempt ε α) :
    (attempt.caught : Attempt δ _).warnings = attempt.warnings := Traced.warnings_map _ _

theorem warnings_mapM_of_ok {f : α → Attempt ε β} {items : List α}
    (each : ∀ item ∈ items, ∃ result, (f item).value = .ok result) :
    Attempt.warnings (items.mapM f) = items.flatMap fun item => (f item).warnings := by
  induction items with
  | nil => rfl
  | cons item rest ih =>
    obtain ⟨result, first⟩ := each item (by simp)
    have later : ∀ other ∈ rest, ∃ result, (f other).value = .ok result :=
      fun other member => each other (by simp [member])
    obtain ⟨results, others⟩ := mapM_total later
    have remaining := ih later
    simp only [List.mapM_cons, warnings_bind, first, value_mapM, others, remaining, warnings_pure, List.append_nil,
      List.flatMap_cons]

/-- All effects of an attempt are of one kind. -/
def Leaves (kind : Effect → Prop) (attempt : Attempt ε α) : Prop := ∀ effect ∈ attempt.trace, kind effect

namespace Leaves

variable {kind other : Effect → Prop}

theorem mono {attempt : Attempt ε α} (leaves : attempt.Leaves kind) (wider : ∀ effect, kind effect → other effect) :
    attempt.Leaves other := fun effect member => wider effect (leaves effect member)

theorem none {attempt : Attempt ε α} (empty : attempt.trace = []) : attempt.Leaves kind := by
  intro effect member
  rw [empty] at member
  cases member

theorem done (value : α) : Leaves kind (pure value : Attempt ε α) := none rfl

theorem failed (error : ε) : Leaves kind (throw error : Attempt ε α) := none rfl

theorem ofExcept (result : Except ε α) : (Attempt.ofExcept result).Leaves kind := none rfl

theorem single {effect : Effect} {attempt : Attempt ε α} (trace : attempt.trace = [effect]) (fits : kind effect) :
    attempt.Leaves kind := by
  intro other member
  rw [trace, List.mem_singleton] at member
  exact member ▸ fits

theorem log {level : Level} (text : String) (fits : kind (.log ⟨level, text⟩)) :
    Leaves kind (Traced.log level text : Attempt ε Unit) := single rfl fits

theorem ask (request : Request) (fits : kind (.ask request)) :
    Leaves kind (Traced.ask request : Attempt ε Unit) := single rfl fits

theorem bind {first : Attempt ε α} {next : α → Attempt ε β} (before : first.Leaves kind)
    (behind : ∀ value, (next value).Leaves kind) : Leaves kind (first >>= next) := by
  intro effect member
  rw [trace_bind, List.mem_append] at member
  rcases member with early | late
  · exact before effect early
  · cases came : first.value with
    | ok value =>
      rw [came] at late
      exact behind value effect late
    | error error =>
      rw [came] at late
      cases late

theorem map {attempt : Attempt ε α} (f : α → β) (leaves : attempt.Leaves kind) : Leaves kind (f <$> attempt) := by
  intro effect member
  rw [trace_map] at member
  exact leaves effect member

theorem mapError {attempt : Attempt ε α} (f : ε → δ) (leaves : attempt.Leaves kind) :
    (attempt.mapError f).Leaves kind := by
  intro effect member
  rw [trace_mapError] at member
  exact leaves effect member

theorem caught {attempt : Attempt ε α} (leaves : attempt.Leaves kind) : Leaves kind (attempt.caught : Attempt δ _) := by
  intro effect member
  rw [trace_caught] at member
  exact leaves effect member

theorem mapM {f : α → Attempt ε β} (each : ∀ item, (f item).Leaves kind) (items : List α) :
    Leaves kind (items.mapM f) := by
  induction items with
  | nil => exact done []
  | cons item rest ih =>
    rw [List.mapM_cons]
    exact (each item).bind fun _ => ih.bind fun _ => done _

theorem shows_nothing {attempt : Attempt ε α} (leaves : attempt.Leaves kind) {shown? : Effect → Option β}
    (hidden : ∀ effect, kind effect → shown? effect = Option.none) : attempt.trace.filterMap shown? = [] :=
  List.filterMap_eq_nil_iff.mpr fun effect member => hidden effect (leaves effect member)

end Leaves

end Attempt

end FilterWatch
