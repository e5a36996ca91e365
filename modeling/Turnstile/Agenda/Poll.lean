import Turnstile.Agenda.Job

/-!
# Running jobs

`runDue` polls a schedule once and runs what is due, one job after the other.  `work` is
what a worker does who was given a job: whoever watches hears of it, and it can be asked
to end.
-/

set_option autoImplicit false

namespace Turnstile.Agenda

open Time (DateTime)

/-- A job that was run, with what it did. -/
abbrev JobResult := Job × Except EngineError BatchSummary

/-- Run jobs one after the other; nobody can ask for an end. -/
def runEach (app : App) : List (DueJob Job) → Work (List JobResult)
  | [] => pure []
  | due :: rest => do
    let result ← (runJob app due.job due.window (pure false)).run
    let results ← runEach app rest
    pure ((due.job, result) :: results)

/-- Run every job that is due. -/
def runDue (app : App) (schedule : Schedule Job) (now : DateTime) :
    Work (List JobResult × Schedule Job) := do
  let (due, schedule) := schedule.due now
  let results ← runEach app due
  pure (results, schedule)

/-- The error of a job that failed. -/
def jobFailure (job : Job) (error : EngineError) : LogEvent :=
  ⟨.error, "Cron job failed", [("job", job.text), ("error", error.message)]⟩

/-- Run one job for everybody to see; its batch stops when an end is asked for. -/
def work (app : App) (due : DueJob Job) : Work Unit := do
  tell (.jobStart due.job.text)
  match ← (runJob app due.job due.window (Work.request .stopRequested)).run with
  | .ok _ => pure ()
  | .error error => tellLog (jobFailure due.job error)
  tell (.jobFinish due.job.text)

end Turnstile.Agenda
