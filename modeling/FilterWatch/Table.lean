import FilterWatch.Record
import FilterWatch.Table.Info
import FilterWatch.Verdict

/-!
A table as chains of records. `Table.ofSnapshot` accepts a snapshot if its records follow one
another without gap, the last is an error target of that name, every hook spans records of the
table, and what lies outside the hooks' spans is a sequence of user chains, each opened by an error
target and closed by a return.
-/

namespace FilterWatch

/-- A chain belongs to a hook, where its policy decides on packets that no rule decides on, or it
is the user's. -/
inductive ChainKind
  | builtin (hook : Hook) (policy : Record)
  | user
  deriving DecidableEq, Repr

structure Chain where
  name : String
  kind : ChainKind
  /-- The offset of the first record, to which a jump to the chain leads. -/
  start : Nat
  /-- The rules in order; neither the policy nor the head nor the closing return is one. -/
  rules : List Record
  deriving DecidableEq, Repr

namespace Chain

def hook? (chain : Chain) : Option Hook :=
  match chain.kind with
  | .builtin hook _ => some hook
  | .user => none

def policy? (chain : Chain) : Option Record :=
  match chain.kind with
  | .builtin _ policy => some policy
  | .user => none

/-- Whether an offset lies between the start of a built-in chain and its policy, both included. -/
def spans (chain : Chain) (offset : Nat) : Bool :=
  match chain.kind with
  | .builtin _ policy => chain.start ≤ offset ∧ offset ≤ policy.offset
  | .user => false

/-- The built-in chain of a hook among the records that it can consist of. -/
def builtin (info : TableInfo) (records : List Record) (hook : Hook) :
    Except LayoutError Chain :=
  let entry := (info.hookEntry.get hook).toNat
  let underflow := (info.underflow.get hook).toNat
  let known := records.any (·.offset = entry)
  match records.find? (·.offset = underflow) with
  | some policy =>
    if entry ≤ underflow ∧ known then
      .ok {
        name := hook.chainName
        kind := .builtin hook policy
        start := entry
        rules := records.filter fun record => entry ≤ record.offset ∧ record.offset < underflow }
    else .error (.invalidHook hook.number entry underflow)
  | none => .error (.invalidHook hook.number entry underflow)

end Chain

/-- A user chain of which the head and some records have been read. -/
structure OpenChain where
  name : String
  start : Nat
  records : List Record
  deriving DecidableEq, Repr

namespace OpenChain

/-- The finished chain: its last record has to return to the caller, and is no rule. -/
def close (chain : OpenChain) : Except LayoutError Chain := do
  let some last := chain.records.getLast? | throw (.chainWithoutReturn chain.name)
  let some target ← last.target | throw (.chainWithoutReturn chain.name)
  if target.isStandard then
    if (← target.verdict) = Verdict.ret then
      return { name := chain.name, kind := .user, start := chain.start,
               rules := chain.records.dropLast }
  throw (.chainWithoutReturn chain.name)

end OpenChain

/-- The user chains read so far: those that are finished, and the one being read. -/
structure Assembly where
  finished : List Chain
  current : Option OpenChain
  deriving DecidableEq, Repr

namespace Assembly

def empty : Assembly := ⟨[], none⟩

def finish (assembly : Assembly) : Except LayoutError (List Chain) :=
  match assembly.current with
  | none => .ok assembly.finished
  | some chain => chain.close.map fun closed => assembly.finished ++ [closed]

/-- Takes in the next record: an error target closes the current chain and opens the next. -/
def add (assembly : Assembly) (record : Record) : Except LayoutError Assembly := do
  match ← record.errorName with
  | some name =>
    let finished ← assembly.finish
    return ⟨finished, some ⟨name, record.next, []⟩⟩
  | none =>
    match assembly.current with
    | some chain => return { assembly with
        current := some { chain with records := chain.records ++ [record] } }
    | none => throw (.ruleBeforeFirstChain record.offset)

end Assembly

/-- A table's info and its chains: the built-in ones by hook, then the user's by name. -/
structure Table where
  info : TableInfo
  chains : List Chain
  deriving DecidableEq, Repr

namespace Table

def recordsFrom (entries : Bytes) (offset : Nat) : Except LayoutError (List Record) :=
  if offset < entries.length then
    match Record.parse entries offset with
    | .error error => .error error
    | .ok record => (recordsFrom entries (offset + record.size)).map (record :: ·)
  else .ok []
termination_by entries.length - offset
decreasing_by
  have := record.size_pos
  omega

/-- Whether the name of one chain comes before or equals that of the other, byte by byte. -/
def nameLe (left right : Chain) : Bool :=
  Bytes.ofText left.name ≤ Bytes.ofText right.name

def userChains (records : List Record) : Except LayoutError (List Chain) := do
  (← records.foldlM Assembly.add Assembly.empty).finish

/-- The table of records that have been told apart. -/
def ofRecords (info : TableInfo) (records : List Record) : Except LayoutError Table := do
  if records.length ≠ info.entryCount.toNat then
    throw (.entryCountMismatch info.entryCount.toNat records.length)
  let some last := records.getLast? | throw .noTrailingErrorTarget
  if (← last.errorName) ≠ some Record.errorTarget then throw .noTrailingErrorTarget
  let body := records.dropLast
  let builtin ← (Hook.all.filter (·.isIn info.validHooks)).mapM (Chain.builtin info body)
  let user ← userChains (body.filter fun record => !builtin.any (·.spans record.offset))
  return { info, chains := builtin ++ user.mergeSort nameLe }

def ofSnapshot (info : TableInfo) (entries : Bytes) : Except LayoutError Table := do
  ofRecords info (← recordsFrom entries 0)

def chainAt? (table : Table) (offset : Nat) : Option Chain :=
  table.chains.find? fun chain => chain.hook?.isNone && chain.start = offset

/-- The name of what a record decides: that of its extension, of its standard verdict, or of the
chain that it jumps to; the empty name where it jumps to the next record. -/
def verdictName (table : Table) (record : Record) : Except LayoutError (Option String) := do
  let some target ← record.target | return none
  if !target.isStandard then return some target.name
  let code ← target.verdict
  match Verdict.name? code with
  | some name => return some name
  | none =>
    if code < 0 then throw (.invalidVerdict code)
    let destination := code.toInt.toNat
    if destination = record.next then return some ""
    match table.chainAt? destination with
    | some chain => return some chain.name
    | none => throw (.invalidJump code)

def policy (table : Table) (chain : Chain) : Except LayoutError (Option Action) :=
  match chain.policy? with
  | none => .ok none
  | some record => do Action.ofVerdict (← table.verdictName record) false record.offset

end Table

end FilterWatch
