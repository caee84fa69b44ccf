import FilterWatch.Kernel.Errno
import FilterWatch.Table
import FilterWatch.Trace

/-!
Reading a table from the kernel. One socket is opened; a first request asks for the table's info, a
second one, made only if the first was answered in full, for its records. A table that is not loaded
is no error. `Kernel` is any behaviour of the other side.
-/

namespace FilterWatch

inductive SnapshotError
  | invalidTableName (name : String)
  | socket (errno : Errno)
  | refused (table what : String) (errno : Errno)
  | sizeMismatch (what : String) (expected found : Nat)
  | layout (error : LayoutError)
  deriving DecidableEq, Repr

namespace SnapshotError

def message : SnapshotError → String
  | invalidTableName name => s!"invalid table name '{name}'"
  | socket _ => "opening raw socket"
  | refused table what _ => s!"reading {what} of table '{table}'"
  | sizeMismatch what expected found =>
    s!"kernel returned {found} bytes of {what}, expected {expected}"
  | layout error => error.message

def causes : SnapshotError → List String
  | socket errno | refused _ _ errno => [errno.text]
  | _ => []

end SnapshotError

/-- Where tables come from: the named table, or none where it is not loaded. -/
abbrev TableSource := String → Attempt SnapshotError (Option Table)

/-- The kernel's answer to a read: it refuses, or it writes over the start of the buffer and
returns a length. -/
inductive Reply
  | refused (errno : Errno)
  | filled (data : Bytes) (length : Nat)
  deriving DecidableEq, Repr

/-- How the kernel behaves during one snapshot. Its answers may depend on the buffers. -/
structure Kernel where
  /-- Why it opens no socket, if it does not. -/
  socket : Option Errno
  info : Bytes → Reply
  entries : Bytes → Reply

namespace Kernel

/-- The bytes before the records in the buffer of the second read: name, size and padding. -/
def entriesHeaderSize : Nat := 40

def tableName (table : String) : Except SnapshotError Bytes :=
  let bytes := Bytes.ofText table
  if bytes = [] ∨ TableInfo.nameWidth ≤ bytes.length ∨ 0 ∈ bytes then
    .error (.invalidTableName table)
  else .ok (bytes.padTo TableInfo.nameWidth)

def checkSize (what : String) (expected found : Nat) : Except SnapshotError Unit :=
  if expected = found then .ok () else .error (.sizeMismatch what expected found)

def infoRequest (name : Bytes) : Bytes := name.padTo TableInfo.encodedSize

def entriesRequest (name : Bytes) (size : UInt32) : Bytes :=
  (name ++ Bytes.ofWord32 size).padTo (entriesHeaderSize + size.toNat)

def readEntries (kernel : Kernel) (table : String) (name : Bytes) (info : TableInfo) :
    Attempt SnapshotError (Option Table) := do
  let buffer := entriesRequest name info.size
  Traced.ask (.readEntries buffer)
  match kernel.entries buffer with
  | .refused errno =>
    if errno = .noEntry then
      Traced.log .debug s!"table '{table}' was unloaded while reading it"
      return none
    throw (.refused table "entries" errno)
  | .filled data length =>
    Attempt.ofExcept (checkSize "table entries" buffer.length length)
    Traced.log .trace
      s!"table '{table}': {info.entryCount.toNat} entries, {info.size.toNat} bytes"
    let entries := (buffer.overlay data).drop entriesHeaderSize
    some <$> Attempt.ofExcept ((Table.ofSnapshot info entries).mapError .layout)

def readTable (kernel : Kernel) (table : String) (name : Bytes) :
    Attempt SnapshotError (Option Table) := do
  let buffer := infoRequest name
  Traced.ask (.readInfo buffer)
  match kernel.info buffer with
  | .refused errno =>
    if errno = .noEntry then
      Traced.log .debug s!"table '{table}' is not loaded"
      return none
    throw (.refused table "info" errno)
  | .filled data length =>
    Attempt.ofExcept (checkSize "table info" buffer.length length)
    let info ← Attempt.ofExcept ((TableInfo.parse (buffer.overlay data)).mapError .layout)
    kernel.readEntries table name info

/-- The named table as the kernel holds it. An opened socket is closed whatever happens. -/
def snapshot (kernel : Kernel) : TableSource := fun table => do
  let name ← Attempt.ofExcept (tableName table)
  Traced.ask .openSocket
  if let some errno := kernel.socket then throw (.socket errno)
  let outcome ← (kernel.readTable table name).caught
  Traced.ask .closeSocket
  Attempt.ofExcept outcome

/-- A kernel that holds one table, whatever name it is asked for. -/
def holding (info : TableInfo) (entries : Bytes) : Kernel where
  socket := none
  info buffer := .filled info.encode buffer.length
  entries buffer := .filled (buffer.take entriesHeaderSize ++ entries) buffer.length

/-- A system without packet filter. -/
def absent : Kernel where
  socket := some .familyNotSupported
  info _ := .refused .familyNotSupported
  entries _ := .refused .familyNotSupported

end Kernel

/-- Tables held in memory, under the names in their infos. -/
abbrev StoredTables := List (TableInfo × Bytes)

/-- The named table as stored; of several of one name the last one counts. -/
def StoredTables.snapshot (tables : StoredTables) : TableSource := fun table =>
  match tables.reverse.find? fun (info, _) => info.name = table with
  | none => return none
  | some (info, entries) =>
    some <$> Attempt.ofExcept ((Table.ofSnapshot info entries).mapError .layout)

end FilterWatch
