import Turnstile.Time.Zone

/-!
# Windows of time

A window is the stretch `(since, now]` between two checks: open at its start and closed
at its end, so that windows laid end to end share no instant.

* `Window.hasTime` tells whether a time of day occurs in a zone within the window.
  Only the local dates from the day before the window up to its last day need to
  be looked at.
* `Window.lasts` tells whether the window is at least as long as a span.
-/

set_option autoImplicit false

namespace Turnstile.Time

/-- The stretch of time `(since, now]`. -/
structure Window where
  since : DateTime
  now : DateTime
deriving DecidableEq, Repr

namespace Window

/-- Whether an instant lies in the window. -/
def contains (w : Window) (t : DateTime) : Bool := w.since < t && t ≤ w.now

/-- Days from `first` to `last`, both included. -/
def days (first last : Day) : List Day :=
  (List.range (last - first + 1).toNat).map fun (i : Nat) => first + (i : Int)

/-- Whether a time of day occurs on one of these local dates within the window. -/
def hasTimeOn (w : Window) (zone : Zone) (time : Clock) (dates : List Day) : Bool :=
  dates.any fun day =>
    match zone.occurrence? ⟨day, time⟩ with
    | some instant => w.contains instant
    | none => false

/-- The local dates that can hold an occurrence within the window. -/
def localDates (w : Window) (zone : Zone) : List Day :=
  let first := (zone.toLocal w.since).day
  let first := if Day.inCalendar (first - 1) then first - 1 else first
  days first (min (zone.toLocal w.now).day lastDay)

/-- Whether a time of day occurs in a zone within the window. -/
def hasTime (w : Window) (zone : Zone) (time : Clock) : Bool :=
  w.hasTimeOn zone time (w.localDates zone)

/-- The names of the zones among `zones` in which a time of day occurs within the
window. -/
def zonesWithTime (w : Window) (zones : List Zone) (time : Clock) : List String :=
  (zones.filter fun zone => w.hasTime zone time).map (·.name)

/-- Whether the window lasts at least a given span; a window that runs backwards never
does. -/
def lasts (w : Window) (span : Span) : Bool :=
  let elapsed := w.now.since w.since
  0 ≤ elapsed && (span.total : Int) ≤ elapsed

end Window

end Turnstile.Time
