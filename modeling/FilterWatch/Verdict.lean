import FilterWatch.LayoutError

/-!
What a rule decides: the codes and names of the standard verdicts, and the action that a verdict's
name stands for.
-/

namespace FilterWatch

namespace Verdict

def drop : Int32 := -1

def accept : Int32 := -2

def queue : Int32 := -4

/-- Back to the calling chain. -/
def ret : Int32 := -5

/-- The name of a standard verdict other than a jump. -/
def name? (code : Int32) : Option String :=
  if code = accept then some "ACCEPT"
  else if code = drop then some "DROP"
  else if code = queue then some "QUEUE"
  else if code = ret then some "RETURN"
  else none

end Verdict

/-- What becomes of a packet. -/
inductive Action
  | allow
  | deny
  | other (text : String)
  deriving DecidableEq, Repr

namespace Action

def text? : Action → Option String
  | other text => some text
  | allow | deny => none

def label : Action → String
  | allow => "Allow"
  | deny => "Deny"
  | other text => s!"Other ({text})"

/-- Whether two names differ at most in the case of letters from A to Z. -/
def sameName (left right : String) : Bool :=
  left.toList.map Char.toLower == right.toList.map Char.toLower

/-- The action that a verdict, an extension or a chain of this name stands for. -/
def ofName (name : String) : Action :=
  if sameName name "ACCEPT" then .allow
  else if sameName name "REJECT" || sameName name "DROP" then .deny
  else .other name

/-- The action of a rule at `offset` from its verdict's name. A goto never decides by itself; the
empty name falls through to the next rule and is no action. -/
def ofVerdict (name : Option String) (goto : Bool) (offset : Nat) :
    Except LayoutError (Option Action) :=
  match name with
  | none => .error (.missingTarget offset)
  | some name =>
    if goto then .ok (some (.other s!"goto {name}"))
    else if name = "" then .ok none
    else .ok (some (ofName name))

end Action

end FilterWatch
