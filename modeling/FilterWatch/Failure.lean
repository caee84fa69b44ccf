import FilterWatch.Trace

/-!
Failures as they are reported: a message and the causes behind it, on one line or on several.
-/

namespace FilterWatch

/-- What went wrong, and why; the nearest cause first. -/
structure Failure where
  message : String
  causes : List String
  deriving DecidableEq, Repr

namespace Failure

/-- The failure as the cause of another. -/
def within (failure : Failure) (message : String) : Failure :=
  ⟨message, failure.message :: failure.causes⟩

/-- The message and its causes on one line, as far as they have no line breaks of their own. -/
def line (failure : Failure) : String := ": ".intercalate (failure.message :: failure.causes)

/-- A text with `first` before its first line and `others` before every other one. -/
def indent (first others text : String) : String :=
  first ++ String.ofList (text.toList.flatMap fun c =>
    if c = '\n' then '\n' :: others.toList else [c])

def numbered (index : Nat) (cause : String) : String :=
  let digits := toString index
  indent ("".pushn ' ' (5 - digits.length) ++ digits ++ ": ") "       " cause

/-- The message, and the causes below it: a single one indented, several ones numbered from zero. -/
def report (failure : Failure) : String :=
  match failure.causes with
  | [] => failure.message
  | [cause] => failure.message ++ "\n\nCaused by:\n" ++ indent "    " "    " cause
  | causes =>
    failure.message ++ "\n\nCaused by:\n" ++
      "\n".intercalate (causes.zipIdx.map fun (cause, index) => numbered index cause)

/-- Logs the failure of something, with its causes below it. -/
def log (failure : Failure) (what : String) : Traced Unit :=
  Traced.log .error s!"{what}: {failure.report}"

/-- Logs the failure that ends the program: with the causes below it where the log is kept down to
debug messages, and else on one line. -/
def logFinal (failure : Failure) (kept : Option Level) : Traced Unit :=
  Traced.log .error (if Level.debug.shownAt kept then failure.report else failure.line)

end Failure

end FilterWatch
