import FilterWatch.Bytes

/-!
Computations that leave a trace: log messages, requests to the kernel and printed text, in the order
in which they happen. A computation is its value together with its trace, so what it does to the
world is an ordinary list.
-/

namespace FilterWatch

/-- How grave a message is, the gravest first. -/
inductive Level
  | error
  | warn
  | info
  | debug
  | trace
  deriving DecidableEq, Repr

namespace Level

def rank : Level → Nat
  | error => 1
  | warn => 2
  | info => 3
  | debug => 4
  | trace => 5

def name : Level → String
  | error => "ERROR"
  | warn => "WARN"
  | info => "INFO"
  | debug => "DEBUG"
  | trace => "TRACE"

/-- A log kept down to some level shows the messages at least as grave; one kept at no level shows
none. -/
def shownAt (level : Level) (kept : Option Level) : Bool :=
  match kept with
  | none => false
  | some kept => level.rank ≤ kept.rank

end Level

structure Message where
  level : Level
  text : String
  deriving DecidableEq, Repr

/-- What is asked of the kernel to read a table. A read hands over a buffer, here as the caller
filled it. -/
inductive Request
  | openSocket
  | readInfo (buffer : Bytes)
  | readEntries (buffer : Bytes)
  | closeSocket
  deriving DecidableEq, Repr

/-- One thing that a computation does to the world. -/
inductive Effect
  | log (message : Message)
  | ask (request : Request)
  | print (text : String)
  deriving DecidableEq, Repr

namespace Effect

def message? : Effect → Option Message
  | log message => some message
  | _ => none

def request? : Effect → Option Request
  | ask request => some request
  | _ => none

def printed? : Effect → Option String
  | print text => some text
  | _ => none

end Effect

/-- A value and the trace of what was done to get it, the earliest effect first. -/
structure Traced (α : Type) where
  value : α
  trace : List Effect

namespace Traced

instance : Monad Traced where
  pure value := ⟨value, []⟩
  bind first next :=
    let second := next first.value
    ⟨second.value, first.trace ++ second.trace⟩

def messages (run : Traced α) : List Message := run.trace.filterMap Effect.message?

def requests (run : Traced α) : List Request := run.trace.filterMap Effect.request?

/-- Everything printed, in one text. -/
def output (run : Traced α) : String := String.join (run.trace.filterMap Effect.printed?)

def log (level : Level) (text : String) : Traced Unit := ⟨(), [.log ⟨level, text⟩]⟩

def ask (request : Request) : Traced Unit := ⟨(), [.ask request]⟩

def print (text : String) : Traced Unit := ⟨(), [.print text]⟩

end Traced

/-- A computation that leaves a trace and can fail; the trace up to the failure remains. -/
abbrev Attempt (ε α : Type) := ExceptT ε Traced α

namespace Attempt

/-- The attempt as a computation that cannot fail, its outcome a value. -/
def outcome (attempt : Attempt ε α) : Traced (Except ε α) := attempt.run

/-- The outcome of an attempt, success or failure, as a value within another attempt. -/
def caught (attempt : Attempt ε α) : Attempt δ (Except ε α) := ExceptT.lift attempt.run

def ofExcept (result : Except ε α) : Attempt ε α := ExceptT.mk (pure result)

def mapError (f : ε → δ) (attempt : Attempt ε α) : Attempt δ α :=
  ExceptT.mk ((Except.mapError f ·) <$> attempt.run)

end Attempt

end FilterWatch
