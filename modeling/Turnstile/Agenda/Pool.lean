import Turnstile.Agenda.Poll

/-!
# The pool of workers

A runner looks at the clock at every tick, takes the jobs that are due, and gives each
to a worker of its own.  They are given out in their order, one by one, whenever fewer
workers are at work than the settings allow.  Until all are given out, the runner looks
neither at the clock nor for an end.

Workers go on side by side: each by one request at a time, and between two requests of
one of them the others may go on, and so may the runner.  Every request can be answered
in any way, and a worker can vanish at any point.  When the runner was asked to end, it
gives out nothing more, and the workers go on until they are done.
-/

set_option autoImplicit false

namespace Turnstile.Agenda

open Time (DateTime)

/-- A worker: the job it was given, and what is left of the work unless it has
vanished. -/
structure Worker where
  due : DueJob Job
  rest : Option (Work Unit)

/-- Whether there is something left to do. -/
def Worker.isBusy (worker : Worker) : Bool :=
  match worker.rest with
  | some (.ask _ _) => true
  | _ => false

/-- A runner with its workers, in the order in which they were hired. -/
structure Pool where
  schedule : Schedule Job
  /-- The jobs that were taken and are still to be given out. -/
  waiting : List (DueJob Job) := []
  workers : List Worker := []
  /-- Whether the runner was asked to end. -/
  closed : Bool := false

/-- How many workers are at work. -/
def Pool.busy (p : Pool) : Nat := p.workers.countP Worker.isBusy

/-- Something that happens in a pool; workers are known by their places. -/
inductive PoolEvent where
  | ticked (now : DateTime)
  | closed
  | hired (due : DueJob Job)
  | said (place : Nat) (exchange : Exchange)
  | vanished (place : Nat)

/-- One thing happens. -/
inductive Pool.Step (app : App) : Pool → PoolEvent → Pool → Prop
  /-- The clock ticks, and the jobs that are due are taken. -/
  | tick {p : Pool} (now : DateTime) (hgiven : p.waiting = [])
      (hopen : p.closed = false) :
      Step app p (.ticked now)
        { p with schedule := (p.schedule.due now).2, waiting := (p.schedule.due now).1 }
  /-- The runner is asked to end. -/
  | close {p : Pool} (hgiven : p.waiting = []) (hopen : p.closed = false) :
      Step app p .closed { p with closed := true }
  /-- A worker is hired for the first job that waits. -/
  | hire {p : Pool} {due : DueJob Job} {later : List (DueJob Job)}
      (hwaiting : p.waiting = due :: later) (hfree : p.busy < app.settings.cronWorkers) :
      Step app p (.hired due)
        { p with waiting := later, workers := p.workers ++ [⟨due, some (work app due)⟩] }
  /-- A worker's request is answered. -/
  | say {p : Pool} {due : DueJob Job} {r : Request}
      {next : r.Answer → Work Unit} (place : Nat)
      (answer : r.Answer) (hworker : p.workers[place]? = some ⟨due, some (.ask r next)⟩) :
      Step app p (.said place ⟨r, answer⟩)
        { p with workers := p.workers.set place ⟨due, some (next answer)⟩ }
  /-- A worker vanishes. -/
  | vanish {p : Pool} {due : DueJob Job} {r : Request}
      {next : r.Answer → Work Unit} (place : Nat)
      (hworker : p.workers[place]? = some ⟨due, some (.ask r next)⟩) :
      Step app p (.vanished place) { p with workers := p.workers.set place ⟨due, none⟩ }

/-- A run of a pool with a schedule, from before the first tick, with all that
happened. -/
inductive Pool.Run (app : App) (schedule : Schedule Job) : List PoolEvent → Pool → Prop
  | start : Run app schedule [] { schedule }
  | step {past : List PoolEvent} {before after : Pool} {event : PoolEvent}
      (run : Run app schedule past before) (hstep : Pool.Step app before event after) :
      Run app schedule (past ++ [event]) after

end Turnstile.Agenda
