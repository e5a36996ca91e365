import Turnstile.Time.Calendar
import Turnstile.Time.Clock

/-!
# Dates with a time of day

A `DateTime` is a day with a time of day.  Read in UTC it is an instant; read in a zone
it is what the clocks there show.

* `rank` gives the order: by day, then by second, then by nanosecond.
* `add?` moves by nanoseconds and fails where the calendar ends.
* `since` is the difference of two instants.
-/

set_option autoImplicit false

namespace Turnstile.Time

/-- A day with a time of day. -/
structure DateTime where
  day : Day
  clock : Clock
deriving DecidableEq, Repr

namespace DateTime

/-- Position on the line of date-times. -/
def rank (t : DateTime) : Int :=
  t.day * (Clock.secondsPerDay * (2 * nanosPerSecond) : Nat) + t.clock.rank

instance : LE DateTime := ⟨fun a b => a.rank ≤ b.rank⟩
instance : LT DateTime := ⟨fun a b => a.rank < b.rank⟩
instance (a b : DateTime) : Decidable (a ≤ b) :=
  inferInstanceAs (Decidable (a.rank ≤ b.rank))
instance (a b : DateTime) : Decidable (a < b) :=
  inferInstanceAs (Decidable (a.rank < b.rank))

/-- Whole seconds since the start of 1970. -/
def seconds (t : DateTime) : Int := t.day * (Clock.secondsPerDay : Int) + t.clock.second

/-- Move by a number of nanoseconds. -/
def add? (t : DateTime) (delta : Int) : Option DateTime :=
  let (clock, days) := t.clock.advance delta
  let day := t.day + days
  if Day.inCalendar day then some ⟨day, clock⟩ else none

/-- Move by whole seconds without leaving a leap second, as a change of offset does. -/
def shift (t : DateTime) (offset : Int) : DateTime :=
  let total := t.seconds + offset
  let perDay : Int := Clock.secondsPerDay
  ⟨total.fdiv perDay, ⟨(total.emod perDay).toNat, t.clock.nano⟩⟩

/-- The difference `a - b` of two instants, in nanoseconds. -/
def since (a b : DateTime) : Int :=
  (a.day - b.day) * ((Clock.secondsPerDay * nanosPerSecond : Nat) : Int)
    + a.clock.difference b.clock

end DateTime

end Turnstile.Time
