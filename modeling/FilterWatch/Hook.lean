/-! The five points of a packet's way at which a table can be consulted. -/

namespace FilterWatch

inductive Hook
  | preRouting
  | input
  | forward
  | output
  | postRouting
  deriving DecidableEq, Repr

namespace Hook

def all : List Hook := [preRouting, input, forward, output, postRouting]

def number : Hook → Nat
  | preRouting => 0
  | input => 1
  | forward => 2
  | output => 3
  | postRouting => 4

def chainName : Hook → String
  | preRouting => "PREROUTING"
  | input => "INPUT"
  | forward => "FORWARD"
  | output => "OUTPUT"
  | postRouting => "POSTROUTING"

/-- The bit that stands for the hook in a set of hooks. -/
def bit (hook : Hook) : UInt32 := UInt32.ofNat (Nat.pow 2 hook.number)

def isIn (hook : Hook) (hooks : UInt32) : Bool := hooks &&& hook.bit != 0

end Hook

/-- A value for each hook. -/
structure PerHook (α : Type) where
  preRouting : α
  input : α
  forward : α
  output : α
  postRouting : α
  deriving DecidableEq, Repr

namespace PerHook

def fill (value : α) : PerHook α := ⟨value, value, value, value, value⟩

def ofFn (f : Hook → α) : PerHook α :=
  ⟨f .preRouting, f .input, f .forward, f .output, f .postRouting⟩

def get (values : PerHook α) : Hook → α
  | .preRouting => values.preRouting
  | .input => values.input
  | .forward => values.forward
  | .output => values.output
  | .postRouting => values.postRouting

/-- The values by the number of their hook. -/
def toList (values : PerHook α) : List α := Hook.all.map values.get

def set (values : PerHook α) (hook : Hook) (value : α) : PerHook α :=
  ofFn fun other => if other = hook then value else values.get other

end PerHook

end FilterWatch
