import Turnstile.Agenda.Schedule
import Turnstile.Engine.Batch
import Turnstile.Text.Quoted

/-!
# Jobs

A job is recurring work on one state: actions try their webhooks again, gates are
looked at when a trigger of time fires, and updates that were not taken to their
gate are taken there.

* `configure` makes the jobs of an application; terminal states have none.
* `runJob` runs one job over a window of time.
-/

set_option autoImplicit false

namespace Turnstile.Agenda

open Time (DateTime Span Window)

/-- What a job does. -/
inductive JobKind where
  /-- Deliver the labels of an action again. -/
  | actionRetry
  /-- Look at a gate when a trigger fires. -/
  | trigger (trigger : Trigger)
  /-- Take the labels of a gate to it that were updated and not taken there. -/
  | metadataRetry
deriving DecidableEq, Repr

/-- Recurring work on a state. -/
structure Job where
  machine : String
  state : String
  kind : JobKind
deriving DecidableEq, Repr

/-- The name of a kind of job. -/
def JobKind.text : JobKind → String
  | .actionRetry => "action retry"
  | .metadataRetry => "metadata retry"
  | .trigger (.daily time) => "daily at " ++ time.text ++ " UTC"
  | .trigger (.dailyIn time zone) => "daily at " ++ time.text ++ " " ++ zone.name
  | .trigger (.dailyPerLabel time path) => "daily at " ++ time.text ++ " in " ++ path
  | .trigger (.every interval) => "every " ++ interval.text
  | .trigger (.onUpdate path) =>
      "Metadata \x7b path: " ++ Text.quotedString path ++ " \x7d"
  | .trigger .onEntry => "OnEntry"

/-- The name of a job. -/
def Job.text (job : Job) : String :=
  job.machine ++ "/" ++ job.state ++ " (" ++ job.kind.text ++ ")"

/-- How often a trigger of time is looked at.  Triggers of events are not. -/
def triggerCadence? (settings : Settings) : Trigger → Option Cadence
  | .daily time => some (.daily time)
  | .dailyIn _ _ => some (.every (.ofSeconds settings.timezoneCheck))
  | .dailyPerLabel _ _ => some (.every (.ofSeconds settings.timezoneCheck))
  | .every interval => some (.every interval)
  | .onUpdate _ => none
  | .onEntry => none

/-- The jobs of a state. -/
def stateJobs (settings : Settings) (machine : String) (state : State) :
    List (Job × Cadence) :=
  if state.isTerminal then []
  else
    match state with
    | .action action =>
      [(⟨machine, action.name, .actionRetry⟩, .every (.ofSeconds settings.actionRetry))]
    | .gate gate =>
      (gate.triggers.filterMap fun trigger =>
        (triggerCadence? settings trigger).map fun cadence =>
          (⟨machine, gate.name, .trigger trigger⟩, cadence)) ++
      if gate.triggers.any Trigger.isOnUpdate then
        [(⟨machine, gate.name, .metadataRetry⟩,
          .every (.ofSeconds settings.metadataRetry))]
      else []

/-- The jobs of an application, by machine and in the order of the states. -/
def applicationJobs (app : App) : List (Job × Cadence) :=
  app.machines.flatMap fun entry =>
    entry.2.states.flatMap (stateJobs app.settings entry.2.name)

/-- The schedule of an application; all first windows begin now. -/
def configure (app : App) (now : DateTime) : Schedule Job :=
  (applicationJobs app).foldl (fun s entry => s.add entry.1 entry.2 now) {}

/-- Run a job over a window of time, until an end is asked for. -/
def runJob (app : App) (job : Job) (window : Window) (stop : Work Bool) :
    Attempt BatchSummary := do
  let m ← Attempt.ofExcept id (app.machine job.machine)
  let state ← Attempt.ofExcept id (m.stateNamed job.state)
  match job.kind with
  | .actionRetry => runBatch app m state .all stop
  | .metadataRetry => runBatch app m state .unprocessed stop
  | .trigger (.dailyPerLabel time path) =>
    match window.zonesWithTime app.zones time with
    | [] => pure {}
    | zones => runBatch app m state (.holding path zones) stop
  | .trigger trigger =>
    if trigger.isDue app.zones window then runBatch app m state .all stop else pure {}

end Turnstile.Agenda
