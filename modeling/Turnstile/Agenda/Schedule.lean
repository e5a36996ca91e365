import Turnstile.Time.Timestamp
import Turnstile.Time.Window

/-!
# Schedules

A schedule is a list of recurring jobs that is polled.  Every job remembers when it was
last handed out, so a late poll hands it the whole window that it missed.

* `Cadence.next?` is the first instant after another at which a cadence fires.
* `Schedule.due` hands out the jobs that are due, in the order in which they were added.
-/

set_option autoImplicit false

namespace Turnstile.Agenda

open Time (Clock DateTime Span Window)

/-- When a job recurs. -/
inductive Cadence where
  | every (period : Span)
  /-- Daily at a time of day in UTC. -/
  | daily (time : Clock)
deriving DecidableEq, Repr

/-- Nanoseconds of a day. -/
def dayLength : Int := (Clock.secondsPerDay * Time.nanosPerSecond : Nat)

/-- The first instant after another at which the cadence fires, unless the calendar ends
before. -/
def Cadence.next? (cadence : Cadence) (after : DateTime) : Option DateTime :=
  match cadence with
  | .every period => period.delta?.bind after.add?
  | .daily time =>
    let today : DateTime := ⟨after.day, time⟩
    if after < today then some today else today.add? dayLength

/-- A recurring job. -/
structure Slot (ι : Type) where
  job : ι
  cadence : Cadence
  /-- Where its next window begins. -/
  lastRun : DateTime
  /-- When it is due; never, when the calendar ends before. -/
  nextDue : Option DateTime
deriving DecidableEq, Repr

/-- A job that is due, with the window that it covers. -/
structure DueJob (ι : Type) where
  job : ι
  window : Window

/-- The recurring jobs in the order in which they were added. -/
structure Schedule (ι : Type) where
  slots : List (Slot ι) := []
deriving DecidableEq, Repr

variable {ι : Type}

namespace Slot

/-- A job whose first window begins now. -/
def start (job : ι) (cadence : Cadence) (now : DateTime) : Slot ι :=
  ⟨job, cadence, now, cadence.next? now⟩

/-- Whether the job is due. -/
def isDue (slot : Slot ι) (now : DateTime) : Bool :=
  slot.nextDue.any fun next => next ≤ now

/-- The window since the job was last handed out. -/
def dueJob (slot : Slot ι) (now : DateTime) : DueJob ι := ⟨slot.job, ⟨slot.lastRun, now⟩⟩

/-- The slot after a poll: a job that was due begins its next window. -/
def advance (slot : Slot ι) (now : DateTime) : Slot ι :=
  if slot.isDue now then start slot.job slot.cadence now else slot

end Slot

/-- The earlier of two instants; of equal ones the first. -/
def earlier (a b : DateTime) : DateTime := if b < a then b else a

namespace Schedule

/-- Add a job whose first window begins now. -/
def add (s : Schedule ι) (job : ι) (cadence : Cadence) (now : DateTime) : Schedule ι :=
  ⟨s.slots ++ [.start job cadence now]⟩

/-- How many jobs there are. -/
def size (s : Schedule ι) : Nat := s.slots.length

/-- The jobs with their cadences. -/
def jobs (s : Schedule ι) : List (ι × Cadence) :=
  s.slots.map fun slot => (slot.job, slot.cadence)

/-- The earliest instant at which any job is due. -/
def nextDue? (s : Schedule ι) : Option DateTime :=
  match s.slots.filterMap Slot.nextDue with
  | [] => none
  | first :: rest => some (rest.foldl earlier first)

/-- Hand out the jobs that are due. -/
def due (s : Schedule ι) (now : DateTime) : List (DueJob ι) × Schedule ι :=
  ((s.slots.filter fun slot => slot.isDue now).map fun slot => slot.dueJob now,
    ⟨s.slots.map fun slot => slot.advance now⟩)

end Schedule

end Turnstile.Agenda
