import FilterWatch.Draft.Rule
import FilterWatch.Table.Info
import FilterWatch.Verdict

/-!
Laying out a whole table: the built-in chains by hook, each closed by its policy; the user chains in
the given order, each opened by its head and closed by a return; and the error target that closes
the table.
-/

namespace FilterWatch

structure BuiltinDraft where
  hook : Hook
  policy : Int32
  rules : List RuleDraft
  deriving DecidableEq, Repr

structure ChainDraft where
  name : String
  rules : List RuleDraft
  deriving DecidableEq, Repr

structure TableDraft where
  name : String
  builtins : List BuiltinDraft
  chains : List ChainDraft
  deriving DecidableEq, Repr

namespace Draft

/-- The bytes that records take together. -/
def totalSize (records : List RuleDraft) : Nat :=
  records.foldl (fun total record => total + record.size) 0

/-- Each item with its offset, when the first stands at `offset` and each next one after the item
before it. -/
def placed (size : α → Nat) (offset : Nat) : List α → List (Nat × α)
  | [] => []
  | item :: rest => (offset, item) :: placed size (offset + size item) rest

end Draft

def BuiltinDraft.records (chain : BuiltinDraft) : List RuleDraft :=
  chain.rules ++ [.unconditional (.verdict chain.policy)]

namespace ChainDraft

def head (chain : ChainDraft) : RuleDraft := .unconditional (.head chain.name)

def records (chain : ChainDraft) : List RuleDraft :=
  chain.head :: chain.rules ++ [.unconditional (.verdict Verdict.ret)]

end ChainDraft

namespace TableDraft

/-- The built-in chains by hook; those of one hook keep their order. -/
def sortedBuiltins (table : TableDraft) : List BuiltinDraft :=
  Hook.all.flatMap fun hook => table.builtins.filter (·.hook = hook)

def builtinRecords (table : TableDraft) : List RuleDraft :=
  table.sortedBuiltins.flatMap BuiltinDraft.records

def records (table : TableDraft) : List RuleDraft :=
  table.builtinRecords ++ table.chains.flatMap ChainDraft.records ++
    [.unconditional (.head Record.errorTarget)]

def placedBuiltins (table : TableDraft) : List (Nat × BuiltinDraft) :=
  Draft.placed (fun chain => Draft.totalSize chain.records) 0 table.sortedBuiltins

def placedChains (table : TableDraft) : List (Nat × ChainDraft) :=
  Draft.placed (fun chain => Draft.totalSize chain.records)
    (Draft.totalSize table.builtinRecords) table.chains

/-- Where a jump to a user chain leads: just after its head. Of chains of one name the last one
counts. -/
def startOf (table : TableDraft) (name : String) : Except DraftError Nat :=
  match table.placedChains.reverse.find? fun (_, chain) => chain.name = name with
  | some (offset, chain) => .ok (offset + chain.head.size)
  | none => .error (.unknownChain name)

/-- The info of the table whose records take `size` bytes. Of built-in chains of one hook the last
one counts. -/
def info (table : TableDraft) (size : Nat) : TableInfo :=
  let blank : TableInfo := {
    name := table.name, validHooks := 0, hookEntry := .fill 0, underflow := .fill 0
    entryCount := UInt32.ofNat table.records.length, size := UInt32.ofNat size }
  table.placedBuiltins.foldl (fun info (offset, chain) => { info with
    validHooks := info.validHooks ||| chain.hook.bit
    hookEntry := info.hookEntry.set chain.hook (UInt32.ofNat offset)
    underflow := info.underflow.set chain.hook
      (UInt32.ofNat (offset + Draft.totalSize chain.rules)) }) blank

def build (table : TableDraft) : Except DraftError (TableInfo × Bytes) := do
  let encoded ← (Draft.placed RuleDraft.size 0 table.records).mapM fun (offset, rule) =>
    rule.encode table.startOf offset
  let entries := encoded.flatten
  return (table.info entries.length, entries)

end TableDraft

end FilterWatch
