import FilterWatch.Rule

/-!
Walking over a table step by step: over its chains, and over the rules of the chain on which the
walk stands. Only advancing moves a cursor; every read fails unless its cursor is on an element.
-/

namespace FilterWatch

inductive Progress
  | hasNext
  | exhausted
  deriving DecidableEq, Repr

/-- A place before, on or after the elements of a list. -/
inductive Cursor
  | before
  | on (index : Nat)
  | after
  deriving DecidableEq, Repr

namespace Cursor

/-- The next place in a list of some length. After the end there is no other. -/
def advance (length : Nat) : Cursor → Cursor
  | before => if 0 < length then on 0 else after
  | on index => if index + 1 < length then on (index + 1) else after
  | after => after

def progress : Cursor → Progress
  | on _ => .hasNext
  | before | after => .exhausted

def position : Cursor → Except LayoutError Nat
  | on index => .ok index
  | before | after => .error .notPositioned

/-- The element of a list on which the cursor stands. -/
def element (cursor : Cursor) (list : List α) : Except LayoutError α := do
  match list[← cursor.position]? with
  | some value => return value
  | none => throw .notPositioned

end Cursor

/-- A walk over the rules of one chain. -/
structure RuleWalk where
  table : Table
  chain : Chain
  cursor : Cursor
  deriving DecidableEq, Repr

namespace RuleWalk

def start (table : Table) (chain : Chain) : RuleWalk := ⟨table, chain, .before⟩

def advance (walk : RuleWalk) : RuleWalk :=
  { walk with cursor := walk.cursor.advance walk.chain.rules.length }

/-- The number of rules, wherever the walk stands. -/
def length (walk : RuleWalk) : Nat := walk.chain.rules.length

def index (walk : RuleWalk) : Except LayoutError Nat := walk.cursor.position

def rule (walk : RuleWalk) : Except LayoutError Rule :=
  walk.cursor.element (walk.table.rulesOf walk.chain)

end RuleWalk

/-- A walk over the chains of a table, with the walk over the current chain's rules if one is
open. -/
structure Walk where
  table : Table
  cursor : Cursor
  rules : Option RuleWalk
  deriving DecidableEq, Repr

namespace Walk

def start (table : Table) : Walk := ⟨table, .before, none⟩

/-- Goes on to the next chain and leaves the rules of the last. -/
def advance (walk : Walk) : Walk :=
  { walk with cursor := walk.cursor.advance walk.table.chains.length, rules := none }

def chain (walk : Walk) : Except LayoutError Chain := walk.cursor.element walk.table.chains

/-- Opens the rules of the current chain at their beginning. Without a current chain, none are open
afterwards. -/
def openRules (walk : Walk) : Walk :=
  { walk with rules := walk.chain.toOption.map (RuleWalk.start walk.table) }

def closeRules (walk : Walk) : Walk := { walk with rules := none }

def advanceRules (walk : Walk) : Walk := { walk with rules := walk.rules.map RuleWalk.advance }

end Walk

end FilterWatch
