import Turnstile.Rehearsal.World
import Turnstile.Value.Fields

/-!
# Rehearsals as documents

Operations, faults, replies and servings are described by documents.  A label is named
by its name and its machine, which is `flow` unless it is given.
-/

set_option autoImplicit false

namespace Turnstile

/-- The machine that is meant when none is named. -/
def machineOf (v : Value) : String := v.textAt "machine" "flow"

/-- Read the label that an operation is about. -/
def labelOf? (v : Value) : Option Label :=
  (v.textAt? "label").map fun name => ⟨name, machineOf v⟩

/-- Read an operation. -/
def Operation.ofValue? (v : Value) : Option Operation := do
  match ← v.textAt? "do" with
  | "create" => pure (.create (← labelOf? v) (v.field "metadata"))
  | "update" => pure (.update (← labelOf? v) (v.field "patch"))
  | "delete" => pure (.delete (← labelOf? v))
  | "force" => pure (.force (← labelOf? v) (← v.textAt? "state"))
  | "metadata" => pure (.metadata (← labelOf? v))
  | "state" => pure (.state (← labelOf? v))
  | "history" => pure (.history (← labelOf? v))
  | "transitions" => pure (.drain (← labelOf? v))
  | "list" => pure (.list (machineOf v))
  | _ => none

/-- Read a selection of labels. -/
def Selection.ofValue? : Value → Option Selection
  | .str "all" => some .all
  | .str "unprocessed" => some .unprocessed
  | v => do pure (.holding (← v.textAt? "path") (← (v.field "values").strings?))

/-- Read the outcome of a delivery. -/
def Delivered.ofName? (name : String) : Option Delivered :=
  [Delivered.success, .retry, .fail].find? fun d => d.name = name

namespace Rehearsal

/-- Read effects. -/
def effectsAt? (v : Value) (name : String) : Option (List Operation) :=
  (v.itemsAt name).mapM Operation.ofValue?

/-- Read a fault. -/
def Fault.ofValue? (v : Value) : Option Fault := do
  let kind ← (v.textAt? "at").bind CallKind.ofName?
  pure ⟨kind, v.natAt "n" 1, v.boolAt "fail" false, ← effectsAt? v "ops"⟩

/-- Read a reply: an outcome, with effects or without. -/
def Reply.ofValue? : Value → Option Reply
  | .str name => (Delivered.ofName? name).map fun result => ⟨result, []⟩
  | v => do
    pure ⟨← (v.textAt? "result").bind Delivered.ofName?, ← effectsAt? v "effects"⟩

/-- Read what a URL answers. -/
def Serving.ofValue? (v : Value) : Option Serving := do
  let url ← v.textAt? "url"
  let message := v.textAt "message" ""
  let effects ← effectsAt? v "effects"
  match v.textAt? "error" with
  | none => pure ⟨.ok (v.field "doc"), effects⟩
  | some "Transport" => pure ⟨.error (.transport url message), effects⟩
  | some "InvalidBody" => pure ⟨.error (.invalidBody url message), effects⟩
  | some "Status" => pure ⟨.error (.status url (v.natAt "status" 0)), effects⟩
  | some _ => none

/-- Read when an end is asked for. -/
def Stop.ofValue? (v : Value) : Option Stop :=
  let stop := v.field "stop"
  let silent := stop.boolAt "drop" false
  match stop.textAt? "after" with
  | some "jobs" => some (.afterJobs (stop.natAt "n" 1) silent)
  | some "webhooks" => some (.afterDeliveries (stop.natAt "n" 1) silent)
  | some _ => none
  | none =>
    if v.has "terminate_after" then some (.afterPolls (v.natAt "terminate_after" 0))
    else some .never

end Rehearsal

end Turnstile
