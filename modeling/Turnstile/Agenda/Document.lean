import Turnstile.Agenda.Job
import Turnstile.Flow.Document

/-!
# Jobs as documents

A cadence is a span or a time of day; a job names its machine, its state and its kind,
which may be a trigger.
-/

set_option autoImplicit false

namespace Turnstile.Agenda

open Time (Clock Zone)

/-- Read a cadence. -/
def Cadence.ofValue? (v : Value) : Option Cadence :=
  if v.has "every" then some (.every (.ofValue (v.field "every")))
  else (Clock.at? v "daily_at").map .daily

/-- The document of a cadence. -/
def Cadence.toValue : Cadence → Value
  | .every period => .object [("every", .arr [.int period.seconds, .int period.nanos])]
  | .daily time => .object [("daily_at", .str time.text)]

/-- Read a kind of job. -/
def JobKind.ofValue? (zones : List Zone) : Value → Option JobKind
  | .str "action_retry" => some .actionRetry
  | .str "metadata_retry" => some .metadataRetry
  | v => (Trigger.ofValue? zones v).map .trigger

/-- Read a job. -/
def Job.ofValue? (zones : List Zone) (v : Value) : Option Job := do
  pure ⟨← v.textAt? "machine", ← v.textAt? "state",
    ← JobKind.ofValue? zones (v.field "kind")⟩

end Turnstile.Agenda
