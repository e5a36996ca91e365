import Turnstile.Engine.Batch
import Turnstile.Value.Merge

/-!
# Operations on labels

Labels are created, updated, deleted and forced into states.  A label that was created
or forced is drained.  An update takes the label to its gate at once if it fires a
trigger of the gate.  Once the operation itself is committed, what goes wrong in the
work that follows a creation or an update is only logged.
-/

set_option autoImplicit false

namespace Turnstile

/-- The warning that a new label could not be drained. -/
def createdWarning (label : Label) (error : EngineError) : LogEvent :=
  ⟨.warn, "Failed to process transitions after creating label",
    [("label", label.text), ("error", error.message)]⟩

/-- The warning that an updated label could not be drained. -/
def updatedWarning (label : Label) (error : EngineError) : LogEvent :=
  ⟨.warn, "Failed to process transitions after metadata update",
    [("label", label.text), ("error", error.message)]⟩

/-- The warning that an updated label could not be taken to its gate. -/
def triggerWarning (label : Label) (gate : String) (error : EngineError) : LogEvent :=
  ⟨.warn, "Metadata trigger failed; leaving it to the retry job",
    [("label", label.text), ("gate", gate), ("error", error.message)]⟩

/-- The state in which a machine's labels are created. -/
def Machine.firstState (m : Machine) : Except EngineError State :=
  match m.initial? with
  | some state => .ok state
  | none => .error (.unknownMachine m.name)

/-- Stage a new label. -/
def stageCreation (label : Label) (metadata : Value) (state : String) : Attempt Unit := do
  match ← lockRow label with
  | some _ => throw (.labelExists label)
  | none => do
    saveRow ⟨label, metadata, false, true⟩
    let _ ← appendMove (.creation label state)
    pure ()

/-- Drain a new label. -/
def drainCreated (app : App) (label : Label) : Work Unit := do
  match ← (drain app label).run with
  | .ok _ => pure ()
  | .error (.deletedLabel _) => pure ()
  | .error error => tellLog (createdWarning label error)

/-- Create a label in the first state of its machine and drain it.  Names are never used
twice. -/
def createLabel (app : App) (label : Label) (metadata : Value) : Attempt Value := do
  let m ← Attempt.ofExcept id (app.machine label.machine)
  if !metadata.isObject then throw (.invalidMetadata label)
  else do
    let first ← Attempt.ofExcept id m.firstState
    inTransaction (stageCreation label metadata first.name)
    Attempt.ofWork (drainCreated app label)
    pure metadata

/-- The gate a label is in, if a change of its metadata fires a trigger of the gate. -/
def triggeredGate? (m : Machine) (history : History) (old patch new : Value) :
    Option Gate := do
  let name ← history.state?
  let state ← m.state? name
  let gate ← state.gate?
  if gate.triggers.any fun trigger => trigger.firesOnUpdate old patch new then some gate
  else none

/-- Stage the update of a label; the second part is the gate it fired. -/
def stageUpdate (m : Machine) (label : Label) (patch : Value) :
    Attempt (Value × Option Gate) := do
  let (row, history) ← lockLive label
  let merged := row.metadata.merge patch
  let gate := triggeredGate? m history row.metadata patch merged
  saveRow { row with
    metadata := merged, triggersProcessed := row.triggersProcessed && gate.isNone }
  pure (merged, gate)

/-- Drain an updated label that has moved. -/
def drainUpdated (app : App) (label : Label) : Work Unit := do
  match ← (drain app label).run with
  | .ok _ => pure ()
  | .error error => tellLog (updatedWarning label error)

/-- Take an updated label to the gate that the update fired. -/
def takeToGate (app : App) (m : Machine) (label : Label) (gate : Gate) : Work Unit := do
  match ← (stepOnce app m (.gate gate) label).run with
  | .ok (.moved _ _) => drainUpdated app label
  | .ok .stayed => pure ()
  | .error (.deletedLabel _) => pure ()
  | .error error => tellLog (triggerWarning label gate.name error)

/-- Merge a patch into the metadata of a label. -/
def updateLabel (app : App) (label : Label) (patch : Value) : Attempt Value := do
  let m ← Attempt.ofExcept id (app.machine label.machine)
  if !patch.isObject then throw (.invalidMetadata label)
  else do
    let (merged, gate?) ← inTransaction (stageUpdate m label patch)
    match gate? with
    | some gate => Attempt.ofWork (takeToGate app m label gate)
    | none => pure ()
    pure merged

/-- Stage the deletion of a label. -/
def stageDeletion (label : Label) : Attempt Unit := do
  match ← lockRow label with
  | none => throw (.unknownLabel label)
  | some row =>
    if row.deleted then pure ()
    else do
      let history ← readOwnHistory label
      saveRow { row with deleted := true, metadata := .obj [] }
      let _ ← appendMove (.deletion label history.state?)
      pure ()

/-- Delete a label: its metadata is cleared and its history ends.  A label that is
deleted already stays as it is. -/
def deleteLabel (app : App) (label : Label) : Attempt Unit := do
  let _ ← Attempt.ofExcept id (app.machine label.machine)
  inTransaction (stageDeletion label)

/-- Stage a demanded move. -/
def stageDemand (label : Label) (state : String) : Attempt Unit := do
  let (_, history) ← lockLive label
  let _ ← appendMove (.demanded label history.state? state)
  pure ()

/-- Move a label to a state whatever its conditions say, and drain it. -/
def forceLabel (app : App) (label : Label) (state : String) : Attempt Unit := do
  let m ← Attempt.ofExcept id (app.machine label.machine)
  let _ ← Attempt.ofExcept id (m.stateNamed state)
  inTransaction (stageDemand label state)
  let _ ← drain app label
  pure ()

/-- Read the committed row of a label. -/
def readRow (label : Label) : Attempt (Option Record) :=
  Attempt.ofStore (.row label)

/-- Read the committed history of a label. -/
def readHistory (label : Label) : Attempt History := do
  let entries ← Attempt.ofStore (.history label)
  pure (History.ofEntries entries)

/-- Read the committed row of a live label. -/
def readLive (label : Label) : Attempt Record := do
  match ← readRow label with
  | none => throw (.unknownLabel label)
  | some row => if row.deleted then throw (.deletedLabel label) else pure row

/-- The metadata of a label. -/
def labelMetadata (app : App) (label : Label) : Attempt Value := do
  let _ ← Attempt.ofExcept id (app.machine label.machine)
  let row ← readLive label
  pure row.metadata

/-- The state of a label. -/
def labelState (app : App) (label : Label) : Attempt String := do
  let _ ← Attempt.ofExcept id (app.machine label.machine)
  let _ ← readLive label
  let history ← readHistory label
  match history.state? with
  | some state => pure state
  | none => throw (.deletedLabel label)

/-- The history of a label; a deleted label keeps it. -/
def labelHistory (app : App) (label : Label) : Attempt History := do
  let _ ← Attempt.ofExcept id (app.machine label.machine)
  match ← readRow label with
  | none => throw (.unknownLabel label)
  | some _ => readHistory label

/-- The names of a machine's live labels, in order. -/
def listLabels (app : App) (machine : String) : Attempt (List String) := do
  let _ ← Attempt.ofExcept id (app.machine machine)
  Attempt.ofStore (.liveNames machine)

end Turnstile
