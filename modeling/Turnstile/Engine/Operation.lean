import Turnstile.Engine.Lifecycle

/-!
# Operations

An operation is what a client of an application can ask for on a label, as data.
-/

set_option autoImplicit false

namespace Turnstile

/-- Something to do with a label, or the list of a machine's labels. -/
inductive Operation where
  | create (label : Label) (metadata : Value)
  | update (label : Label) (patch : Value)
  | delete (label : Label)
  | force (label : Label) (state : String)
  | metadata (label : Label)
  | state (label : Label)
  | history (label : Label)
  | drain (label : Label)
  | list (machine : String)

/-- What an operation yields. -/
inductive OperationResult where
  | nothing
  | document (value : Value)
  | state (name : String)
  | entries (history : List Entry)
  | drained (summary : DrainSummary)
  | names (names : List String)

/-- Do an operation. -/
def Operation.perform (app : App) : Operation → Attempt OperationResult
  | .create label document => do
    let given ← createLabel app label document
    pure (.document given)
  | .update label patch => do
    let merged ← updateLabel app label patch
    pure (.document merged)
  | .delete label => do
    deleteLabel app label
    pure .nothing
  | .force label target => do
    forceLabel app label target
    pure .nothing
  | .metadata label => do
    let document ← labelMetadata app label
    pure (.document document)
  | .state label => do
    let current ← labelState app label
    pure (.state current)
  | .history label => do
    let past ← labelHistory app label
    pure (.entries past.entries)
  | .drain label => do
    let summary ← Turnstile.drain app label
    pure (.drained summary)
  | .list machine => do
    let found ← listLabels app machine
    pure (.names found)

end Turnstile
