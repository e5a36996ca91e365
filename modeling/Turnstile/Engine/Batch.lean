import Turnstile.Engine.Drain

/-!
# Batches

A batch works on the selected labels in a state, in the order of their names.  Whoever
runs it can ask for an end between two labels.  What goes wrong with one label is logged
and counted, and does not concern the others.
-/

set_option autoImplicit false

namespace Turnstile

/-- Which labels of a state a batch works on. -/
inductive Selection where
  | all
  /-- Those with updates that have not been taken to the gate. -/
  | unprocessed
  /-- Those whose metadata holds one of these strings at a path. -/
  | holding (path : String) (values : List String)

/-- Whether a row is selected. -/
def Selection.admits (selection : Selection) (row : Record) : Bool :=
  match selection with
  | .all => true
  | .unprocessed => !row.triggersProcessed
  | .holding path values =>
    match row.metadata.get? (Value.Path.ofDotted (Value.metadataRelative path)) with
    | some (.str value) => values.contains value
    | _ => false

/-- What a batch did. -/
structure BatchSummary where
  processed : Nat := 0
  progressed : Nat := 0
  failed : Nat := 0
  interrupted : Bool := false
deriving DecidableEq, Repr

/-- What became of one label of a batch. -/
structure Visit where
  progressed : Bool
  failed : Bool
deriving DecidableEq, Repr

/-- Count a visit. -/
def BatchSummary.count (s : BatchSummary) (v : Visit) : BatchSummary :=
  { s with
    processed := s.processed + 1
    progressed := s.progressed + v.progressed.toNat
    failed := s.failed + v.failed.toNat }

/-- The error that a label could not be drained. -/
def drainFailure (label : Label) (error : EngineError) : LogEvent :=
  ⟨.error, "Failed to process transitions",
    [("label", label.text), ("error", error.message)]⟩

/-- The error that a label could not be processed. -/
def visitFailure (label : Label) (state : String) (error : EngineError) : LogEvent :=
  ⟨.error, "Failed to process label",
    [("label", label.text), ("state", state), ("error", error.message)]⟩

/-- Work on a state for a label, in a transaction. -/
def stepOnce (app : App) (m : Machine) (state : State) (label : Label) :
    Attempt Outcome :=
  inTransaction (stepIn app m state label)

/-- Drain a label that has moved; whether that failed. -/
def drainMoved (app : App) (label : Label) : Work Bool := do
  match ← (drain app label).run with
  | .ok _ => pure false
  | .error (.deletedLabel _) => pure false
  | .error error => do
    tellLog (drainFailure label error)
    pure true

/-- Work on one label of a batch. -/
def visit (app : App) (m : Machine) (state : State) (label : Label) : Work Visit := do
  match ← (stepOnce app m state label).run with
  | .ok (.moved _ _) => do
    let failed ← drainMoved app label
    pure ⟨true, failed⟩
  | .ok .stayed => pure ⟨false, false⟩
  | .error (.deletedLabel _) => pure ⟨false, false⟩
  | .error (.unknownLabel _) => pure ⟨false, false⟩
  | .error error => do
    tellLog (visitFailure label state.name error)
    pure ⟨false, true⟩

/-- Work on the labels of these names, one after the other, until an end is asked for. -/
def visitAll (app : App) (m : Machine) (state : State) (stop : Work Bool)
    (summary : BatchSummary) : List String → Work BatchSummary
  | [] => pure summary
  | name :: rest => do
    if ← stop then pure { summary with interrupted := true }
    else do
      let v ← visit app m state ⟨name, m.name⟩
      visitAll app m state stop (summary.count v) rest

/-- Work on the selected labels in a state. -/
def runBatch (app : App) (m : Machine) (state : State) (selection : Selection)
    (stop : Work Bool) : Attempt BatchSummary :=
  if state.isTerminal then pure {}
  else do
    let rows ← Attempt.ofStore (.rowsInState m.name state.name)
    let names := (rows.filter selection.admits).map fun row => row.label.name
    Attempt.ofWork (visitAll app m state stop {} names)

end Turnstile
