import Turnstile.Time.Window
import Turnstile.Value.Path

/-!
# Triggers

A trigger tells when the exit condition of a gate is looked at again: at a time of day,
after a span of time, or when an update of a label's metadata touches a path.
-/

set_option autoImplicit false

namespace Turnstile

open Time (Clock Span Window Zone)

/-- A reason to look at a gate again. -/
inductive Trigger where
  /-- Daily at a time of day in UTC. -/
  | daily (time : Clock)
  /-- Daily at a time of day in a zone. -/
  | dailyIn (time : Clock) (zone : Zone)
  /-- Daily at a time of day in the zone that each label names at a path of its
  metadata. -/
  | dailyPerLabel (time : Clock) (path : String)
  /-- Whenever a span has gone by. -/
  | every (interval : Span)
  /-- Whenever an update touches a path. -/
  | onUpdate (path : String)
  /-- On entering the gate, which is always looked at then. -/
  | onEntry
deriving DecidableEq, Repr

namespace Trigger

/-- Whether a trigger of time fires within a window, when these are the zones that
labels can name.  Triggers of events never do. -/
def isDue (trigger : Trigger) (zones : List Zone) (w : Window) : Bool :=
  match trigger with
  | .daily time => w.hasTime .utc time
  | .dailyIn time zone => w.hasTime zone time
  | .dailyPerLabel time _ => !(w.zonesWithTime zones time).isEmpty
  | .every interval => w.lasts interval
  | .onUpdate _ => false
  | .onEntry => false

/-- Whether an update fires the trigger: its patch reaches the path, or the path came or
went. -/
def firesOnUpdate (trigger : Trigger) (old patch new : Value) : Bool :=
  match trigger with
  | .onUpdate path =>
    let path := Value.Path.ofDotted (Value.metadataRelative path)
    patch.reaches path || (old.reaches path != new.reaches path)
  | _ => false

/-- Whether the trigger waits for updates. -/
def isOnUpdate : Trigger → Bool
  | .onUpdate _ => true
  | _ => false

end Trigger

end Turnstile
