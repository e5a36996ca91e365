import Turnstile.Agenda.Poll

/-!
# Runners of a rehearsal

In a rehearsal one worker acts at a time, so a runner gives out a job when the one
before it is done, and goes on to the next tick when all are.
-/

set_option autoImplicit false

namespace Turnstile.Rehearsal

open Agenda (DueJob Job Schedule work)

/-- Work on jobs one after the other. -/
def workEach (app : App) : List (DueJob Job) → Work Unit
  | [] => pure ()
  | due :: later => do
    work app due
    workEach app later

/-- Poll at every tick and work on what is due, for at most so many ticks. -/
def runTicks (app : App) : Nat → Schedule Job → Work Unit
  | 0, _ => pure ()
  | ticks + 1, schedule => do
    if ← Work.request .nextTick then
      let now ← Work.request .now
      let (due, schedule) := schedule.due now
      workEach app due
      runTicks app ticks schedule
    else pure ()

end Turnstile.Rehearsal
