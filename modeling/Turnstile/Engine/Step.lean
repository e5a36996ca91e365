import Turnstile.Context
import Turnstile.Engine.App
import Turnstile.History

/-!
# Steps

A step works on the state that a label is in.  It takes the lock of the label and reads
it again, so that it decides on what is true now.  A gate lets the label go when its
exit condition is true; an action when its webhook has accepted the label.  A step
within the wrong state, or within a terminal one, does nothing.
-/

set_option autoImplicit false

namespace Turnstile

open Time (DateTime)

/-- What became of a step. -/
inductive Outcome where
  | moved (source target : String)
  | stayed
deriving DecidableEq, Repr

/-- Lock a label and read its row, if there is one. -/
def lockRow (label : Label) : Attempt (Option Record) :=
  Attempt.ofStore (.lock label)

/-- Stage a row. -/
def saveRow (row : Record) : Attempt Unit := Attempt.ofStore (.save row)

/-- Stage an entry. -/
def appendMove (move : Move) : Attempt Entry := Attempt.ofStore (.append move)

/-- Read the history of a label within the transaction. -/
def readOwnHistory (label : Label) : Attempt History := do
  let entries ← Attempt.ofStore (.ownHistory label)
  pure (History.ofEntries entries)

/-- Lock a label that exists and is not deleted, and read its row and history. -/
def lockLive (label : Label) : Attempt (Record × History) := do
  match ← lockRow label with
  | none => throw (.unknownLabel label)
  | some row =>
    if row.deleted then throw (.deletedLabel label)
    else do
      let history ← readOwnHistory label
      pure (row, history)

/-- Fetch the feeds of these names into a context, one after the other, up to the first
failure. -/
def gatherFeeds (m : Machine) (context : Context) :
    List String → Work (Except FeedError Context)
  | [] => pure (.ok context)
  | name :: rest =>
    match m.feed? name with
    | none => pure (.error (.undeclared name))
    | some feed => do
      let url := feed.urlFor context.label
      tell (.feedStart m.name name url)
      match ← Work.request (.fetch url) with
      | .error error => do
        tell (.feedFinish m.name name url (some error))
        pure (.error error)
      | .ok document => do
        tell (.feedFinish m.name name url none)
        gatherFeeds m (context.withFeed name document) rest

/-- What can be seen of a label through these dotted paths: the feeds they read are
fetched. -/
def gatherContext (m : Machine) (label : Label) (metadata : Value) (entry : Option Entry)
    (paths : List String) : Work (Except FeedError Context) :=
  gatherFeeds m ⟨label, metadata, [], entry⟩ (Feed.referenced paths)

/-- Mark the updates of a row as taken to the gate. -/
def markProcessed (row : Record) : Attempt Unit :=
  if row.triggersProcessed then pure ()
  else saveRow { row with triggersProcessed := true }

/-- Move a label on from a state, to where its route leads. -/
def leave (label : Label) (source : String) (route : Route) (context : Context) :
    Attempt Outcome := do
  let target ← Attempt.ofExcept EngineError.route (route.next context.lookup)
  let _ ← appendMove (.transition label source target)
  pure (.moved source target)

/-- Look at a gate for a label. -/
def stepGate (m : Machine) (gate : Gate) (label : Label) : Attempt Outcome := do
  let (row, history) ← lockLive label
  if history.state? ≠ some gate.name then pure .stayed
  else do
    markProcessed row
    if gate.route.isTerminal then pure .stayed
    else do
      let now ← Attempt.ofWork (Work.request .now)
      let gathered ← Attempt.ofWork
        (gatherContext m label row.metadata history.current? gate.reads)
      let context ← Attempt.ofExcept EngineError.feed gathered
      let passed ← Attempt.ofExcept (EngineError.evaluation gate.name)
        (gate.exit.run context.lookup (.aware now))
      if passed then leave label gate.name gate.route context else pure .stayed

/-- Deliver the webhook of an action for a label that entered it with an entry. -/
def deliver (m : Machine) (action : Action) (label : Label) (metadata : Value)
    (entry : Entry) :
    Work Delivered := do
  let delivery : Delivery :=
    ⟨action.webhook, Webhook.contentType, Webhook.payload label.name metadata,
      Webhook.token label entry.id⟩
  tell (.webhookStart m.name action.name action.webhook)
  let result ← Work.request (.deliver delivery)
  tell (.webhookFinish m.name action.name action.webhook result)
  pure result

/-- The entry with which a label entered the state it is in, if that is the named one. -/
def History.entryInto? (history : History) (state : String) : Option Entry :=
  history.current?.filter fun entry => entry.entered == some state

/-- Deliver an action for a label. -/
def stepAction (app : App) (m : Machine) (action : Action) (label : Label) :
    Attempt Outcome := do
  let (row, history) ← lockLive label
  match history.entryInto? action.name with
  | none => pure .stayed
  | some entry =>
    if action.route.isTerminal then pure .stayed
    else if !app.delivers m.name then throw (.noReceiver m.name)
    else do
      let result ← Attempt.ofWork (deliver m action label row.metadata entry)
      match result with
      | .success =>
        leave label action.name action.route ⟨label, row.metadata, [], some entry⟩
      | .retry => pure .stayed
      | .fail => pure .stayed

/-- Work on a state for a label that should be in it. -/
def stepIn (app : App) (m : Machine) (state : State) (label : Label) : Attempt Outcome :=
  match state with
  | .gate gate => stepGate m gate label
  | .action action => stepAction app m action label

/-- Work on whatever state a label is in. -/
def stepCurrent (app : App) (m : Machine) (label : Label) : Attempt Outcome := do
  let (_, history) ← lockLive label
  match history.state? with
  | none => throw (.deletedLabel label)
  | some name => do
    let state ← Attempt.ofExcept id (m.stateNamed name)
    stepIn app m state label

end Turnstile
