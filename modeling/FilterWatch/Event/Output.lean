import FilterWatch.Collector.Config
import FilterWatch.Event
import FilterWatch.Failure

/-!
Printing events. JSON is printed all or nothing: every line is written before the first is printed.
-/

namespace FilterWatch

/-- What is wrong with the time of an event that cannot be printed. -/
inductive PrintError
  /-- JSON has no times before the epoch. -/
  | beforeEpoch
  /-- The calendar does not reach that far. -/
  | outsideCalendar
  deriving DecidableEq, Repr

def PrintError.failure : PrintError → Failure
  | beforeEpoch => ⟨"Error serializing event", ["SystemTime must be later than UNIX_EPOCH"]⟩
  | outsideCalendar => ⟨"Error printing event", ["its time is outside of the calendar"]⟩

namespace Event

def jsonLines (events : List Event) : Except PrintError (List String) :=
  events.mapM fun event =>
    match event.json? with
    | some line => .ok line
    | none => .error .beforeEpoch

def printJson (events : List Event) : Attempt PrintError Unit := do
  let lines ← Attempt.ofExcept (jsonLines events)
  lines.forM fun line => Traced.print (line ++ "\n")

def printText (events : List Event) : Attempt PrintError Unit :=
  events.forM fun event =>
    match event.line? true with
    | some line => Traced.print line
    | none => throw .outsideCalendar

def print (events : List Event) (format : OutputFormat) : Attempt PrintError Unit :=
  match format with
  | .plaintext => printText events
  | .json => printJson events

end Event

end FilterWatch
