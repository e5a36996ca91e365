import Turnstile.Flow.Blueprint
import Turnstile.Value.Fields

/-!
# Blueprints as documents

Machines are described by documents: states with their triggers and routes, feeds as
pairs of a name and a template, and header rules as pairs of a pattern and headers.
-/

set_option autoImplicit false

namespace Turnstile

open Time (Clock Span Zone)

/-- Read a span: seconds and nanoseconds, each zero when missing. -/
def Time.Span.ofValue (v : Value) : Span := ⟨v.natAt "secs" 0, v.natAt "nanos" 0⟩

/-- Read a time of day from a field. -/
def Time.Clock.at? (v : Value) (name : String) : Option Clock :=
  (v.textAt? name).bind Clock.parse?

/-- Read a trigger, which may name one of the zones. -/
def Trigger.ofValue? (zones : List Zone) (v : Value) : Option Trigger := do
  match ← v.textAt? "kind" with
  | "system_time" => pure (.daily (← Clock.at? v "time"))
  | "timezone" =>
    pure (.dailyIn (← Clock.at? v "time")
      (← (v.textAt? "timezone").bind (Zone.named? zones)))
  | "metadata_timezone" =>
      pure (.dailyPerLabel (← Clock.at? v "time") (← v.textAt? "path"))
  | "interval" => pure (.every (.ofValue v))
  | "metadata" => pure (.onUpdate (← v.textAt? "path"))
  | "on_entry" => pure .onEntry
  | _ => none

/-- Read an arm: its value and its state. -/
def Arm.ofValue? : Value → Option Arm
  | .arr [value, .str state] => some ⟨value, state⟩
  | _ => none

/-- Read a route: null, a state, or a path with arms. -/
def Route.ofValue? : Value → Option Route
  | .null => some .stay
  | .str state => some (.always state)
  | v => do pure (.byValue (← v.textAt? "path") (← (v.itemsAt "to").mapM Arm.ofValue?))

/-- Read the plan of a state. -/
def StatePlan.ofValue? (zones : List Zone) (v : Value) : Option StatePlan := do
  let route ← Route.ofValue? (v.field "next")
  match v.textAt? "gate" with
  | some name => do
    let triggers ← (v.itemsAt "triggers").mapM (Trigger.ofValue? zones)
    pure (.gate name (v.textAt? "exit") triggers route)
  | none => pure (.action (← v.textAt? "action") (v.textAt? "webhook") route)

/-- Read a feed. -/
def Feed.ofValue? : Value → Option Feed
  | .arr [.str name, .str template] => some ⟨name, template⟩
  | _ => none

/-- Read headers. -/
def headersOfValue? (v : Value) : Option (Dictionary String) :=
  v.entries.mapM fun entry => entry.2.string?.map fun text => (entry.1, text)

/-- Read the plan of a header rule. -/
def headerPlanOfValue? : Value → Option (String × Dictionary String)
  | .arr [.str pattern, headers] => (headersOfValue? headers).map fun h => (pattern, h)
  | _ => none

/-- Read a blueprint. -/
def Blueprint.ofValue? (zones : List Zone) (v : Value) : Option Blueprint := do
  pure {
    name := v.textAt "name" "flow"
    states := ← (v.itemsAt "states").mapM (StatePlan.ofValue? zones)
    feeds := ← (v.itemsAt "feeds").mapM Feed.ofValue?
    headerRules := ← (v.itemsAt "webhooks").mapM headerPlanOfValue? }

/-- The document of headers. -/
def headersToValue (headers : Dictionary String) : Value :=
  .object (headers.map fun header => (header.1, .str header.2))

end Turnstile
