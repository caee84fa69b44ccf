import FilterWatch.Proofs.Observations
import FilterWatch.Proofs.RoundTrip
import FilterWatch.Proofs.Walking
import Mathlib.Data.List.Induction

/-! Walking in any order of calls. Any number of walks over the rules of the current chain can be open
side by side, and every call leaves the others where they are. What a call answers is told by the calls
before it alone: how often the chains were advanced, and how often this walk over rules. -/

namespace FilterWatch
open Proofs.Outcomes

namespace Cursor

/-- Where advancing from the start of a list of some length leads to. -/
def afterAdvances (length : Nat) : Nat → Cursor
  | 0 => before
  | index + 1 => if index < length then on index else after

theorem advance_afterAdvances (length advances : Nat) :
    (afterAdvances length advances).advance length = afterAdvances length (advances + 1) := by
  cases advances with
  | zero => rfl
  | succ index =>
    by_cases inside : index < length
    · simp only [afterAdvances, if_pos inside, advance]
    · have further : ¬ index + 1 < length := by omega
      simp only [afterAdvances, if_neg inside, if_neg further, advance]

end Cursor

/-- What the last of some advances reaches in a list, if the list is that long. -/
def reached (list : List α) : Nat → Option α
  | 0 => none
  | index + 1 => list[index]?

theorem reached_eq_some {list : List α} {advances : Nat} {value : α} :
    reached list advances = some value ↔ 0 < advances ∧ list[advances - 1]? = some value := by
  cases advances <;> simp [reached]

theorem isSome_reached_succ (list : List α) (advances : Nat) :
    (reached list (advances + 1)).isSome = true ↔ advances + 1 ≤ list.length := by
  rw [reached, isSome_getElem?, Nat.succ_le_iff]

theorem reached_eq_none {list : List α} {advances : Nat} :
    reached list advances = none ↔ advances = 0 ∨ list.length < advances := by
  cases advances with
  | zero => simp [reached]
  | succ index =>
    rw [reached, List.getElem?_eq_none_iff]
    omega

namespace Cursor

/-- What is read where there may be no element. -/
def held : Option α → Except LayoutError α
  | some value => .ok value
  | none => .error .notPositioned

/-- Some advances lead to an element of the list, or to its start or behind its end. -/
theorem afterAdvances_cases (list : List α) (advances : Nat) :
    (∃ value, reached list advances = some value ∧ list[advances - 1]? = some value ∧
      afterAdvances list.length advances = on (advances - 1)) ∨
    reached list advances = none ∧
      (afterAdvances list.length advances = before ∨ afterAdvances list.length advances = after) := by
  cases advances with
  | zero => exact .inr ⟨rfl, .inl rfl⟩
  | succ index =>
    by_cases inside : index < list.length
    · have found : list[index]? = some list[index] := List.getElem?_eq_getElem inside
      exact .inl ⟨list[index], found, found, if_pos inside⟩
    · exact .inr ⟨List.getElem?_eq_none (Nat.not_lt.mp inside), .inr (if_neg inside)⟩

theorem element_afterAdvances (list : List α) (advances : Nat) :
    (afterAdvances list.length advances).element list = held (reached list advances) := by
  obtain ⟨value, found, there, positioned⟩ | ⟨none, ended | ended⟩ := afterAdvances_cases list advances
  · obtain ⟨inside, rfl⟩ := List.getElem?_eq_some_iff.mp there
    rw [positioned, element_on inside, found, held]
  · rw [ended, none]
    rfl
  · rw [ended, none]
    rfl

theorem progress_afterAdvances (list : List α) (advances : Nat) :
    (afterAdvances list.length advances).progress =
      if (reached list advances).isSome then .hasNext else .exhausted := by
  obtain ⟨value, found, -, positioned⟩ | ⟨none, ended | ended⟩ := afterAdvances_cases list advances
  · rw [positioned, found]
    rfl
  · rw [ended, none]
    rfl
  · rw [ended, none]
    rfl

theorem position_afterAdvances (list : List α) (advances : Nat) :
    (afterAdvances list.length advances).position = held ((reached list advances).map fun _ => advances - 1) := by
  obtain ⟨value, found, -, positioned⟩ | ⟨none, ended | ended⟩ := afterAdvances_cases list advances
  · rw [positioned, found]
    rfl
  · rw [ended, none]
    rfl
  · rw [ended, none]
    rfl

end Cursor

/-- A walk over the chains of a table, and the walks over rules that were opened on the way, by their number.
One that has been dropped, or was asked for where no chain was current, is none. -/
structure Session where
  walk : Walk
  opened : List (Option RuleWalk)

namespace Session

/-- A walk over rules goes by its number, that of the walks opened before. A read asks for all that can be read. -/
inductive Call
  | advance
  | read
  | openRules
  | dropRules (number : Nat)
  | advanceRules (number : Nat)
  | readRules (number : Nat)
  deriving DecidableEq, Repr

inductive Answer
  | moved (progress : Progress)
  | chain (reading : Walk.Reading)
  | opened (outcome : Except LayoutError Unit)
  | dropped
  | rules (reading : RuleWalk.Reading)
  | notOpen

def start (table : Table) : Session := ⟨Walk.start table, []⟩

def rules? (session : Session) (number : Nat) : Option RuleWalk := session.opened.getD number none

/-- The walks over rules borrow the current chain, so advancing over the chains drops what is left of them. -/
def perform (session : Session) : Call → Session
  | .advance => ⟨session.walk.advance, session.opened.map fun _ => none⟩
  | .openRules => ⟨session.walk, session.opened ++ [session.walk.openRules.rules]⟩
  | .dropRules number => ⟨session.walk, session.opened.set number none⟩
  | .advanceRules number => ⟨session.walk, session.opened.modify number (·.map RuleWalk.advance)⟩
  | .read | .readRules _ => session

def answer (session : Session) : Call → Answer
  | .advance => .moved session.walk.advance.cursor.progress
  | .read => .chain session.walk.reading
  | .openRules => .opened (session.walk.chain.map fun _ => ())
  | .dropRules _ => .dropped
  | .advanceRules number =>
    match session.rules? number with
    | some rules => .moved rules.advance.cursor.progress
    | none => .notOpen
  | .readRules number =>
    match session.rules? number with
    | some rules => .rules rules.reading
    | none => .notOpen

def after (table : Table) (calls : List Call) : Session := calls.foldl perform (start table)

/-- The rules that a walk comes to stand on during some calls, one for each of its advances that reaches one. -/
def visits (number : Nat) : Session → List Call → List Rule
  | _, [] => []
  | session, call :: rest =>
    let next := session.perform call
    let found := if call = .advanceRules number then (next.rules? number).bind (·.rule.toOption) else none
    found.toList ++ visits number next rest

end Session

/-- What can be read on a chain, or away from all chains. -/
def Walk.Reading.of (table : Table) : Option Chain → Walk.Reading
  | some chain => {
      info := table.info, progress := .hasNext, name := .ok chain.name, hook := .ok chain.hook?
      policy := table.policy chain, rules := none }
  | none => {
      info := table.info, progress := .exhausted, name := .error .notPositioned, hook := .error .notPositioned
      policy := .error .notPositioned, rules := none }

/-- What can be read of a walk over the rules of a chain after some advances. -/
def RuleWalk.Reading.of (table : Table) (chain : Chain) (advances : Nat) : RuleWalk.Reading :=
  match reached (table.rulesOf chain) advances with
  | some rule => {
      progress := .hasNext, length := chain.rules.length, index := .ok (advances - 1), rule := .ok rule.reading }
  | none => {
      progress := .exhausted, length := chain.rules.length, index := .error .notPositioned
      rule := .error .notPositioned }

namespace Walk

/-- A walk over chains whose advances have been counted. -/
def counted (table : Table) (advances : Nat) : Walk := ⟨table, .afterAdvances table.chains.length advances, none⟩

theorem advance_counted (table : Table) (advances : Nat) :
    (counted table advances).advance = counted table (advances + 1) := by
  simp only [counted, advance, Cursor.advance_afterAdvances]

theorem chain_counted (table : Table) (advances : Nat) :
    (counted table advances).chain = Cursor.held (reached table.chains advances) :=
  Cursor.element_afterAdvances table.chains advances

theorem progress_counted (table : Table) (advances : Nat) :
    (counted table advances).cursor.progress =
      if (reached table.chains advances).isSome then .hasNext else .exhausted :=
  Cursor.progress_afterAdvances table.chains advances

theorem reading_counted (table : Table) (advances : Nat) :
    (counted table advances).reading = .of table (reached table.chains advances) := by
  simp only [reading, chain_counted, progress_counted]
  cases reached table.chains advances <;> rfl

end Walk

namespace RuleWalk

/-- A walk over the rules of a chain whose advances have been counted. -/
def counted (table : Table) (chain : Chain) (advances : Nat) : RuleWalk :=
  ⟨table, chain, .afterAdvances chain.rules.length advances⟩

variable (table : Table) (chain : Chain) (advances : Nat)

theorem advance_counted : (counted table chain advances).advance = counted table chain (advances + 1) := by
  simp only [counted, advance, Cursor.advance_afterAdvances]

theorem cursor_counted :
    (counted table chain advances).cursor = .afterAdvances (table.rulesOf chain).length advances := by
  rw [table.length_rulesOf]
  rfl

theorem rule_counted :
    (counted table chain advances).rule = Cursor.held (reached (table.rulesOf chain) advances) := by
  rw [rule, cursor_counted]
  exact Cursor.element_afterAdvances (table.rulesOf chain) advances

theorem progress_counted :
    (counted table chain advances).cursor.progress =
      if (reached (table.rulesOf chain) advances).isSome then .hasNext else .exhausted := by
  rw [cursor_counted, Cursor.progress_afterAdvances]

theorem reading_counted : (counted table chain advances).reading = .of table chain advances := by
  rw [reading, progress_counted, rule_counted, index, cursor_counted, Cursor.position_afterAdvances, Reading.of]
  cases reached (table.rulesOf chain) advances <;> rfl

end RuleWalk

namespace Session

variable (table : Table) (calls : List Call)

theorem after_append_singleton (call : Call) : after table (calls ++ [call]) = (after table calls).perform call := by
  simp only [after, List.foldl_append, List.foldl_cons, List.foldl_nil]

theorem walk_after : (after table calls).walk = .counted table (calls.count .advance) := by
  induction calls using List.reverseRecOn with
  | nil => rfl
  | append_singleton calls call ih =>
    rw [after_append_singleton]
    cases call with
    | advance =>
      simp only [perform, ih, Walk.advance_counted, List.count_append, List.count_singleton_self]
    | read | openRules | dropRules _ | advanceRules _ | readRules _ =>
      simpa [perform, List.count_append, List.count_singleton] using ih

theorem length_opened : (after table calls).opened.length = calls.count .openRules := by
  induction calls using List.reverseRecOn with
  | nil => rfl
  | append_singleton calls call ih =>
    rw [after_append_singleton]
    cases call with
    | openRules =>
      simp only [perform, List.length_append, ih, List.count_append, List.count_singleton_self]
      rfl
    | advance | read | dropRules _ | advanceRules _ | readRules _ =>
      simpa [perform, List.count_append, List.count_singleton] using ih

theorem rules?_eq_some {session : Session} {number : Nat} {rules : RuleWalk} :
    session.rules? number = some rules ↔ session.opened[number]? = some (some rules) := by
  rw [rules?, List.getD_eq_getElem?_getD]
  cases session.opened[number]? <;> simp

/-- A walk over rules is moved by its own advances alone, as long as neither it nor the chain is left. -/
theorem rules?_perform {session : Session} {number : Nat} {rules : RuleWalk} (there : session.rules? number = some rules)
    {call : Call} (stays : call ≠ .advance) (kept : call ≠ .dropRules number) :
    (session.perform call).rules? number = some (if call = .advanceRules number then rules.advance else rules) := by
  have inside := rules?_eq_some.mp there
  have short : number < session.opened.length := (List.getElem?_eq_some_iff.mp inside).1
  rw [rules?_eq_some]
  cases call with
  | advance => exact absurd rfl stays
  | read | readRules _ => simp [perform, inside]
  | openRules => simp [perform, List.getElem?_append_left short, inside]
  | dropRules other =>
    have apart : other ≠ number := fun same => kept (congrArg Call.dropRules same)
    simp [perform, List.getElem?_set_ne apart, inside]
  | advanceRules other =>
    by_cases same : other = number <;> simp [perform, same, inside]

variable {table} {before later : List Call} {chain : Chain}

theorem rules?_openRules (current : reached table.chains (before.count .advance) = some chain) :
    (after table (before ++ [.openRules])).rules? (before.count .openRules) = some (.counted table chain 0) := by
  have opens : (after table before).walk.openRules.rules = some (.counted table chain 0) := by
    rw [walk_after, Walk.openRules, Walk.chain_counted, current]
    rfl
  rw [rules?_eq_some, after_append_singleton, perform, opens, ← length_opened table before, List.getElem?_concat_length]

theorem rules?_after (current : reached table.chains (before.count .advance) = some chain) (stays : .advance ∉ later)
    (kept : .dropRules (before.count .openRules) ∉ later) :
    (after table (before ++ .openRules :: later)).rules? (before.count .openRules) =
      some (.counted table chain (later.count (.advanceRules (before.count .openRules)))) := by
  induction later using List.reverseRecOn with
  | nil => exact rules?_openRules current
  | append_singleton later call ih =>
    simp only [List.mem_append, List.mem_singleton, not_or] at stays kept
    rw [← List.cons_append, ← List.append_assoc, after_append_singleton,
      rules?_perform (ih stays.1 kept.1) (Ne.symm stays.2) (Ne.symm kept.2), List.count_append, List.count_singleton]
    by_cases own : call = .advanceRules (before.count .openRules)
    · simp [own, RuleWalk.advance_counted]
    · simp [own]

theorem visits_append_singleton (number : Nat) (session : Session) (calls : List Call) (call : Call) :
    visits number session (calls ++ [call]) = visits number session calls ++
      visits number (calls.foldl perform session) [call] := by
  induction calls generalizing session with
  | nil => rfl
  | cons first rest ih => simp only [List.cons_append, visits, ih, List.foldl_cons, List.append_assoc]

theorem take_reached (list : List α) (advances : Nat) :
    list.take (advances + 1) = list.take advances ++ (reached list (advances + 1)).toList := List.take_add_one

/-- A walk over rules comes to stand on the rules of its chain in order, on each of them once. -/
theorem visits_after (current : reached table.chains (before.count .advance) = some chain) (stays : .advance ∉ later)
    (kept : .dropRules (before.count .openRules) ∉ later) :
    visits (before.count .openRules) (after table (before ++ [.openRules])) later =
      (table.rulesOf chain).take (later.count (.advanceRules (before.count .openRules))) := by
  induction later using List.reverseRecOn with
  | nil => rfl
  | append_singleton later call ih =>
    have here := rules?_after current stays kept
    simp only [List.mem_append, List.mem_singleton, not_or] at stays kept
    rw [visits_append_singleton, ih stays.1 kept.1]
    have shown : (after table (before ++ [.openRules] ++ later)).perform call =
        after table (before ++ .openRules :: (later ++ [call])) := by
      rw [← after_append_singleton]
      simp
    have begun : later.foldl perform (after table (before ++ [.openRules])) =
        after table (before ++ [.openRules] ++ later) := by
      simp only [after, List.foldl_append]
    simp only [begun, visits, shown, here, List.append_nil]
    by_cases own : call = .advanceRules (before.count .openRules)
    · have found : ∀ rule? : Option Rule, (Cursor.held rule?).toOption = rule? := by
        intro rule?
        cases rule? <;> rfl
      rw [if_pos own, Option.bind_some, RuleWalk.rule_counted, found, own, List.count_append, List.count_singleton_self,
        take_reached]
    · rw [if_neg own, List.count_append, List.count_singleton, if_neg (by simpa using own)]
      simp

/-- What the calls of a session answer, whatever was called before. The chains are reached one after the other, one by
each advance; a walk over rules reaches those of its chain in the same way, by its own advances, whichever others
are open. Reading moves nothing. -/
theorem answers_of_calls (table : Table) (calls : List Call) :
    let advances := calls.count .advance
    let session := after table calls
    session.answer .advance = .moved (if advances + 1 ≤ table.chains.length then .hasNext else .exhausted) ∧
    (∀ chain, 0 < advances → table.chains[advances - 1]? = some chain →
      session.answer .read = .chain (.of table (some chain)) ∧ session.answer .openRules = .opened (.ok ())) ∧
    (advances = 0 ∨ table.chains.length < advances →
      session.answer .read = .chain (.of table none) ∧
        session.answer .openRules = .opened (.error .notPositioned)) ∧
    (∀ before later chain, calls = before ++ .openRules :: later →
      0 < before.count .advance → table.chains[before.count .advance - 1]? = some chain → .advance ∉ later →
      let number := before.count .openRules
      let steps := later.count (.advanceRules number)
      .dropRules number ∉ later →
        session.answer (.advanceRules number) =
            .moved (if steps + 1 ≤ chain.rules.length then .hasNext else .exhausted) ∧
          session.answer (.readRules number) = .rules (.of table chain steps) ∧
          visits number (after table (before ++ [.openRules])) later = (table.rulesOf chain).take steps) ∧
    ∀ number, after table (calls ++ [.read]) = session ∧ after table (calls ++ [.readRules number]) = session := by
  intro advances session
  have walk : session.walk = .counted table advances := walk_after table calls
  refine ⟨?_, fun chain some here => ?_, fun none => ?_, ?_, fun number => ⟨?_, ?_⟩⟩
  · rw [answer, walk, Walk.advance_counted, Walk.progress_counted]
    simp only [isSome_reached_succ]
  · have current : reached table.chains advances = .some chain := reached_eq_some.mpr ⟨some, here⟩
    rw [answer, answer, walk, Walk.reading_counted, Walk.chain_counted, current]
    exact ⟨rfl, rfl⟩
  · have astray : reached table.chains advances = .none := reached_eq_none.mpr none
    rw [answer, answer, walk, Walk.reading_counted, Walk.chain_counted, astray]
    exact ⟨rfl, rfl⟩
  · intro before later chain split some here stays number steps kept
    -- The walk over rules was opened where the walk over chains stood then.
    have current := reached_eq_some.mpr ⟨some, here⟩
    have rules : session.rules? number = .some (.counted table chain steps) := by
      simp only [session, split]
      exact rules?_after current stays kept
    refine ⟨?_, ?_, visits_after current stays kept⟩
    · simp only [answer, rules, RuleWalk.advance_counted, RuleWalk.progress_counted, isSome_reached_succ,
        table.length_rulesOf]
    · simp only [answer, rules, RuleWalk.reading_counted]
  · exact after_append_singleton table calls .read
  · exact after_append_singleton table calls (.readRules number)

end Session

namespace TableDraft

/-- Two walks over the same two rules, one of them a step ahead of the other. -/
theorem answers_of_calls_sample :
    ∃ chain, sample.built.chains[1]? = some chain ∧ chain.rules.length = 2 ∧
      let calls := [.advance, .advance, .openRules, .advanceRules 0, .openRules, .advanceRules 0, .read, .advanceRules 1]
      let session := Session.after sample.built calls
      session.answer .read = .chain (.of sample.built (some chain)) ∧
      session.answer (.readRules 0) = .rules (.of sample.built chain 2) ∧
      session.answer (.advanceRules 0) = .moved .exhausted ∧
      session.answer (.readRules 1) = .rules (.of sample.built chain 1) ∧
      session.answer (.advanceRules 1) = .moved .hasNext := by
  obtain ⟨chain, here, two⟩ : ∃ chain, sample.built.chains[1]? = some chain ∧ chain.rules.length = 2 := by
    refine ⟨_, rfl, ?_⟩
    decide +kernel
  refine ⟨chain, here, two, ?_⟩
  intro calls session
  obtain ⟨_, read, _, rules, _⟩ := Session.answers_of_calls sample.built calls
  obtain ⟨first, ahead, _⟩ :=
    rules [.advance, .advance] [.advanceRules 0, .openRules, .advanceRules 0, .read, .advanceRules 1]
      chain rfl (by decide) here (by decide) (by decide)
  obtain ⟨second, behind, _⟩ :=
    rules [.advance, .advance, .openRules, .advanceRules 0] [.advanceRules 0, .read, .advanceRules 1]
      chain rfl (by decide) here (by decide) (by decide)
  rw [two] at first second
  exact ⟨(read chain (by decide) here).1, ahead, first, behind, second⟩

end TableDraft

end FilterWatch
