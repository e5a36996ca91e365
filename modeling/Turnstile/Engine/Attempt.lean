import Turnstile.Condition.Program
import Turnstile.Engine.Work
import Turnstile.Flow.Machine

/-!
# Attempts

An attempt is work that can fail.  What a transaction staged is kept if the attempt
within it succeeds and forgotten if it fails; `inTransaction` sees to it.
-/

set_option autoImplicit false

namespace Turnstile

/-- Why an attempt failed. -/
inductive EngineError where
  | unknownLabel (label : Label)
  | deletedLabel (label : Label)
  | labelExists (label : Label)
  | unknownMachine (name : String)
  | unknownState (machine state : String)
  | invalidMetadata (label : Label)
  | evaluation (gate : String) (cause : Condition.Failure)
  | route (cause : RouteError)
  | feed (cause : FeedError)
  | noReceiver (machine : String)
  | store (refusal : StoreError)

/-- The name of a kind of failure; causes of another kind keep their own. -/
def EngineError.name : EngineError → String
  | .unknownLabel _ => "UnknownLabel"
  | .deletedLabel _ => "DeletedLabel"
  | .labelExists _ => "LabelAlreadyExists"
  | .unknownMachine _ => "UnknownStateMachine"
  | .unknownState _ _ => "UnknownState"
  | .invalidMetadata _ => "InvalidMetadata"
  | .evaluation _ _ => "Evaluation"
  | .route cause => cause.name
  | .feed cause => cause.name
  | .noReceiver _ => "NoWebhookRunner"
  | .store refusal => refusal.name

/-- The wording of a failure. -/
def EngineError.message : EngineError → String
  | .unknownLabel label => "Label " ++ label.text ++ " does not exist"
  | .deletedLabel label => "Label " ++ label.text ++ " has been deleted"
  | .labelExists label => "Label " ++ label.text ++ " already exists"
  | .unknownMachine name => "State machine '" ++ name ++ "' does not exist"
  | .unknownState machine state =>
    "State '" ++ state ++ "' does not exist in state machine '" ++ machine ++ "'"
  | .invalidMetadata label =>
      "Metadata for label " ++ label.text ++ " must be a JSON object"
  | .evaluation gate cause =>
      "Exit condition of gate '" ++ gate ++ "' failed: " ++ cause.message
  | .route cause => cause.message
  | .feed cause => cause.message
  | .noReceiver machine =>
    "No webhook runner is configured for state machine '" ++ machine ++ "'"
  | .store refusal => refusal.message

/-- Work that can fail. -/
abbrev Attempt (α : Type) := ExceptT EngineError Work α

namespace Attempt

variable {α : Type}

/-- Ask the store. -/
def ofStore (request : StoreRequest) : Attempt request.Result := ExceptT.mk do
  match ← Work.request (.store request) with
  | .ok a => pure (.ok a)
  | .error refusal => pure (.error (.store refusal))

/-- Do what cannot fail. -/
def ofWork (work : Work α) : Attempt α := ExceptT.mk do
  let a ← work
  pure (.ok a)

/-- Fail for a reason of another kind. -/
def ofExcept {ε : Type} (wrap : ε → EngineError) (result : Except ε α) : Attempt α :=
  ExceptT.mk (pure (result.mapError wrap))

end Attempt

/-- Tell the log. -/
def tellLog (event : LogEvent) : Work Unit := Work.request (.log event)

/-- Tell whoever watches. -/
def tell (notice : Notice) : Work Unit := Work.request (.notify notice)

/-- The warning that a transaction could not be rolled back. -/
def rollbackWarning (refusal : StoreError) : LogEvent :=
  ⟨.warn, "Rollback failed", [("error", refusal.message)]⟩

/-- End a transaction as the result within it asks for. -/
def settle {α : Type} (result : Except EngineError α) : Work (Except EngineError α) :=
  match result with
  | .ok a => do
    match ← Work.request (.store .commit) with
    | .ok _ => pure (.ok a)
    | .error refusal => pure (.error (.store refusal))
  | .error error => do
    match ← Work.request (.store .rollback) with
    | .ok _ => pure (.error error)
    | .error refusal => do
      tellLog (rollbackWarning refusal)
      pure (.error error)

/-- Make an attempt within a transaction of its own. -/
def inTransaction {α : Type} (attempt : Attempt α) : Attempt α := ExceptT.mk do
  match ← Work.request (.store .begin) with
  | .ok _ => do settle (← attempt.run)
  | .error refusal => pure (.error (.store refusal))

end Turnstile
