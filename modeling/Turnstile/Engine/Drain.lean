import Turnstile.Engine.Step

/-!
# Draining

To drain a label is to let it take steps until it stays where it is.  Every step has a
transaction of its own.  A label that is deleted meanwhile is at rest.  The number of
steps is limited, since gates that are always open may stand in a circle.
-/

set_option autoImplicit false

namespace Turnstile

/-- How many steps were made, and whether the limit ended it. -/
structure DrainSummary where
  steps : Nat
  capped : Bool
deriving DecidableEq, Repr

/-- The warning of a label that made as many steps as it may. -/
def limitWarning (label : Label) (limit : Nat) : LogEvent :=
  ⟨.warn, "Label reached the transition limit; the state machine may contain a cycle",
    [("label", label.text), ("limit", toString limit)]⟩

/-- Let a label take at most `remaining` more steps of `limit`. -/
def drainFrom (app : App) (m : Machine) (label : Label) (limit : Nat) :
    Nat → Attempt DrainSummary
  | 0 => do
    Attempt.ofWork (tellLog (limitWarning label limit))
    pure ⟨limit, true⟩
  | remaining + 1 => ExceptT.mk do
    match ← (inTransaction (stepCurrent app m label)).run with
    | .ok (.moved _ _) => (drainFrom app m label limit remaining).run
    | .ok .stayed => pure (.ok ⟨limit - (remaining + 1), false⟩)
    | .error (.deletedLabel _) => pure (.ok ⟨limit - (remaining + 1), false⟩)
    | .error error => pure (.error error)

/-- Let a label take steps until it stays. -/
def drain (app : App) (label : Label) : Attempt DrainSummary := do
  let m ← Attempt.ofExcept id (app.machine label.machine)
  drainFrom app m label app.settings.maxTransitions app.settings.maxTransitions

end Turnstile
