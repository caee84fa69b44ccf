import FilterWatch.Bytes.Read
import FilterWatch.Hook

/-!
What the kernel tells about a table before it hands out the records, and the 84 bytes in which it
does so.
-/

namespace FilterWatch

structure TableInfo where
  name : String
  /-- The hooks at which the table has a built-in chain. -/
  validHooks : UInt32
  /-- Where the built-in chain of a hook starts. -/
  hookEntry : PerHook UInt32
  /-- Where the policy of the built-in chain of a hook stands. -/
  underflow : PerHook UInt32
  entryCount : UInt32
  /-- The bytes that all records take. -/
  size : UInt32
  deriving DecidableEq, Repr

namespace TableInfo

def encodedSize : Nat := 84

/-- The width of a table's name, its final zero included. -/
def nameWidth : Nat := 32

def hookEntryAt (hook : Hook) : Nat := 36 + 4 * hook.number

def underflowAt (hook : Hook) : Nat := 56 + 4 * hook.number

/-- Reads the words of all hooks before the name and the other words. -/
def parse (bytes : Bytes) : Except LayoutError TableInfo := do
  let words ← Hook.all.mapM fun hook => do
    return (← bytes.word32At (hookEntryAt hook), ← bytes.word32At (underflowAt hook))
  let word (hook : Hook) := words.getD hook.number (0, 0)
  let name ← bytes.nameAt 0 nameWidth
  let validHooks ← bytes.word32At 32
  let entryCount ← bytes.word32At 76
  let size ← bytes.word32At 80
  return {
    name, validHooks, entryCount, size
    hookEntry := .ofFn fun hook => (word hook).1
    underflow := .ofFn fun hook => (word hook).2 }

/-- The info as the kernel lays it out; a name that is too long is cut, and then has no zero. -/
def encode (info : TableInfo) : Bytes :=
  ((Bytes.ofText info.name).padTo nameWidth).take nameWidth ++ Bytes.ofWord32 info.validHooks ++
    info.hookEntry.toList.flatMap Bytes.ofWord32 ++ info.underflow.toList.flatMap Bytes.ofWord32 ++
    Bytes.ofWord32 info.entryCount ++ Bytes.ofWord32 info.size

end TableInfo

end FilterWatch
