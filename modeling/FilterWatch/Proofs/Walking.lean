import FilterWatch.Walk
import FilterWatch.Proofs.Outcomes

/-! A whole walk over a table: advance until the end, and read at every stop. It shows every chain
and every rule of the chain once, in the order in which the table lists them. -/

namespace FilterWatch
open Proofs.Outcomes

namespace Cursor

/-- The elements of a list of some length that advancing can still reach. -/
def remaining (length : Nat) : Cursor → Nat
  | before => length
  | on index => length - (index + 1)
  | after => 0

/-- Advancing reaches the first of the remaining elements, or the end if there are none. -/
theorem advance_cases (length : Nat) (cursor : Cursor) :
    (cursor.remaining length = 0 ∧ cursor.advance length = after) ∨
    ∃ index < length, cursor.advance length = on index ∧
      cursor.remaining length = (on index).remaining length + 1 ∧ cursor.remaining length + index = length := by
  cases cursor with
  | before =>
    simp only [advance, remaining]
    split
    · exact .inr ⟨0, by omega, rfl, by omega, by omega⟩
    · exact .inl ⟨by omega, rfl⟩
  | on index =>
    simp only [advance, remaining]
    split
    · exact .inr ⟨index + 1, by omega, rfl, by omega, by omega⟩
    · exact .inl ⟨by omega, rfl⟩
  | after => exact .inl ⟨rfl, rfl⟩

theorem remaining_advance {length : Nat} {cursor : Cursor}
    (more : (cursor.advance length).progress = .hasNext) :
    (cursor.advance length).remaining length < cursor.remaining length := by
  rcases cursor.advance_cases length with ⟨_, ended⟩ | ⟨index, _, reached, count, _⟩
  · rw [ended] at more
    cases more
  · rw [reached, count]
    exact Nat.lt_succ_self _

theorem element_on {list : List α} {index : Nat} (inside : index < list.length) :
    (on index).element list = .ok list[index] := by
  simp only [element, position, bind, Except.bind, List.getElem?_eq_getElem inside]
  rfl

def ahead (cursor : Cursor) (list : List α) : List α := list.drop (list.length - cursor.remaining list.length)

theorem ahead_before (list : List α) : before.ahead list = list := by
  simp [ahead, remaining]

theorem ahead_of_ended {list : List α} {cursor : Cursor} (ended : cursor.remaining list.length = 0) :
    cursor.ahead list = [] := by
  simp [ahead, ended]

theorem ahead_of_reached {list : List α} {cursor : Cursor} {index : Nat} (inside : index < list.length)
    (place : cursor.remaining list.length + index = list.length) :
    cursor.ahead list = list[index] :: (on index).ahead list := by
  have first : list.length - cursor.remaining list.length = index := by omega
  have second : list.length - (on index).remaining list.length = index + 1 := by
    simp only [remaining]
    omega
  simp only [ahead, first, second, List.drop_eq_getElem_cons inside]

/-- Whatever advances to the end and visits every element on the way works on the elements ahead. -/
theorem mapM_ahead {list : List α} {view : α → Except ε β} (visit : Cursor → Except ε β)
    (walk : Cursor → Except ε (List β))
    (visited : ∀ index (inside : index < list.length), visit (on index) = view list[index])
    (step : ∀ cursor, walk cursor =
      if (cursor.advance list.length).progress = .hasNext then do
        return (← visit (cursor.advance list.length)) :: (← walk (cursor.advance list.length))
      else .ok []) (cursor : Cursor) : walk cursor = (cursor.ahead list).mapM view := by
  induction count : cursor.remaining list.length generalizing cursor with
  | zero =>
    rcases cursor.advance_cases list.length with ⟨_, ended⟩ | ⟨_, _, _, _, _⟩
    · rw [step, ended, if_neg (by simp [progress]), ahead_of_ended count]
      rfl
    · omega
  | succ rest ih =>
    rcases cursor.advance_cases list.length with ⟨_, _⟩ | ⟨index, inside, reached, fewer, place⟩
    · omega
    · rw [step, reached, if_pos (by simp [progress]), visited index inside, ih (on index) (by omega),
        ahead_of_reached inside place, List.mapM_cons]

end Cursor

/-- What a walk shows of a rule: the place and the bytes of its record, and what it decides. -/
structure RuleView where
  offset : Nat
  bytes : Bytes
  target : Option String
  deriving DecidableEq, Repr

/-- What a walk shows of a chain. -/
structure ChainView where
  name : String
  hook : Option Hook
  policy : Option Action
  rules : List RuleView
  deriving DecidableEq, Repr

def Rule.view (rule : Rule) : Except LayoutError RuleView := do
  return { offset := rule.record.offset, bytes := rule.record.bytes, target := ← rule.target }

/-- What is shown of a record, whichever rule it is. -/
def Table.viewOf (table : Table) (record : Record) : Except LayoutError RuleView := do
  return { offset := record.offset, bytes := record.bytes, target := ← table.verdictName record }

theorem Table.rulesOf_views (table : Table) (chain : Chain) :
    (table.rulesOf chain).mapM Rule.view = chain.rules.mapM table.viewOf := by
  have records : chain.rules.zipIdx.mapM (table.viewOf ∘ Prod.fst) = chain.rules.mapM table.viewOf := by
    rw [← List.mapM_map, List.zipIdx_map_fst]
  rw [rulesOf, List.mapM_map]
  exact records

theorem Table.length_rulesOf (table : Table) (chain : Chain) :
    (table.rulesOf chain).length = chain.rules.length := by simp [rulesOf]

namespace RuleWalk

/-- Advances to the end and shows every rule on the way. -/
def views (walk : RuleWalk) : Except LayoutError (List RuleView) :=
  if _more : walk.advance.cursor.progress = .hasNext then do
    let view ← (← walk.advance.rule).view
    return view :: (← walk.advance.views)
  else .ok []
termination_by walk.cursor.remaining walk.chain.rules.length
decreasing_by exact Cursor.remaining_advance _more

theorem views_eq (table : Table) (chain : Chain) (cursor : Cursor) :
    views ⟨table, chain, cursor⟩ = (cursor.ahead (table.rulesOf chain)).mapM Rule.view := by
  have length := table.length_rulesOf chain
  refine Cursor.mapM_ahead (fun place => rule ⟨table, chain, place⟩ >>= Rule.view)
    (fun place => views ⟨table, chain, place⟩) ?_ ?_ cursor
  · intro index inside
    have found : rule ⟨table, chain, .on index⟩ = .ok (table.rulesOf chain)[index] := Cursor.element_on inside
    rw [found]
    rfl
  · intro cursor
    rw [views, length]
    simp only [advance, bind_assoc]
    rfl

theorem views_start (table : Table) (chain : Chain) :
    (start table chain).views = (table.rulesOf chain).mapM Rule.view := by
  rw [start, views_eq, Cursor.ahead_before]

end RuleWalk

/-- What is shown of a chain whose rules are known. -/
def Table.view (table : Table) (chain : Chain) : Except LayoutError ChainView := do
  let rules ← (table.rulesOf chain).mapM Rule.view
  let policy ← table.policy chain
  return { name := chain.name, hook := chain.hook?, policy, rules }

namespace Walk

/-- Advances to the end, opens the rules of every chain on the way and walks over them. -/
def views (walk : Walk) : Except LayoutError (List ChainView) :=
  if _more : walk.advance.cursor.progress = .hasNext then do
    let chain ← walk.advance.chain
    let rules ← match walk.advance.openRules.rules with
      | some rules => rules.views
      | none => .error .notPositioned
    let policy ← walk.table.policy chain
    return { name := chain.name, hook := chain.hook?, policy, rules } :: (← walk.advance.views)
  else .ok []
termination_by walk.cursor.remaining walk.table.chains.length
decreasing_by exact Cursor.remaining_advance _more

theorem views_eq (table : Table) (cursor : Cursor) :
    views ⟨table, cursor, none⟩ = (cursor.ahead table.chains).mapM table.view := by
  refine Cursor.mapM_ahead (fun place => chain ⟨table, place, none⟩ >>= table.view)
    (fun place => views ⟨table, place, none⟩) ?_ ?_ cursor
  · intro index inside
    have found : chain ⟨table, .on index, none⟩ = .ok table.chains[index] := Cursor.element_on inside
    rw [found]
    rfl
  · intro cursor
    rw [views]
    have opened : ∀ current, chain ⟨table, cursor.advance table.chains.length, none⟩ = .ok current →
        (openRules ⟨table, cursor.advance table.chains.length, none⟩).rules = some (RuleWalk.start table current) := by
      intro current stands
      rw [openRules, stands]
      rfl
    simp only [advance]
    cases stands : chain ⟨table, cursor.advance table.chains.length, none⟩ with
    | error error => rfl
    | ok current =>
      simp only [opened current stands, RuleWalk.views_start, Table.view, ok_bind, bind_assoc, pure_bind]
      rfl

theorem views_start (table : Table) : (start table).views = table.chains.mapM table.view := by
  rw [start, views_eq, Cursor.ahead_before]

end Walk

end FilterWatch
