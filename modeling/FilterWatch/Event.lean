import FilterWatch.Event.FirewallRule
import FilterWatch.Json.Quoted
import FilterWatch.Time
import FilterWatch.Uuid

/-!
Events: a rule together with who saw it where and when. An event is shown as a line of text or as
one line of JSON.
-/

namespace FilterWatch

structure EventHeader where
  source : String
  hostname : String
  /-- What the events of one pass have in common. -/
  snapshot : Uuid
  timestamp : Time
  deriving DecidableEq, Repr

structure Event where
  header : EventHeader
  rule : FirewallRule
  deriving DecidableEq, Repr

namespace Event

/-- The name of the only kind of event. -/
def kindName : String := "FirewallRule"

/-- The event in words, with its line break, if its time has a text. A highlighted line sets off the
word that marks events. -/
def line? (event : Event) (highlight : Bool) : Option String :=
  event.header.timestamp.text?.map fun time =>
    let word := if highlight then "\x1b[1;30;46mEVENT\x1b[0m" else "EVENT"
    s!"[{time} {word} {event.header.hostname}] [{event.header.source}] " ++
      s!"Firewall Rule {event.rule.text}\n"

end Event

/-- The rule as a JSON object; absent fields are null. -/
def FirewallRule.json (rule : FirewallRule) : String :=
  Json.object ([
    ("chain", Json.quote rule.chain),
    ("priority", toString rule.priority),
    ("direction", Json.optional (rule.direction.map Direction.name)),
    ("action", Json.optional (rule.action.map RuleAction.name))] ++
    rule.optionalTexts.map fun (name, value) => (name, Json.optional value))

namespace Event

/-- The event as a JSON object. There is none for a time before the epoch. -/
def json? (event : Event) : Option String :=
  let time := event.header.timestamp
  if time.seconds < 0 then none
  else
    let timestamp := Json.object [
      ("secs_since_epoch", toString time.seconds.toNat),
      ("nanos_since_epoch", toString time.nanos)]
    let header := Json.object [
      ("source", Json.quote event.header.source),
      ("hostname", Json.quote event.header.hostname),
      ("snapshot", Json.quote event.header.snapshot.text),
      ("timestamp", timestamp)]
    let payload := Json.object [("type", Json.quote kindName), ("content", event.rule.json)]
    some (Json.object [("header", header), ("payload", payload)])

end Event

end FilterWatch
