import Turnstile.Store.Basic

/-!
# Requests to the store

Everything that is done with the store is a request of a client.  `StoreRequest.serve`
is the store's side: the answer and the store after it, or nothing while the client has
to wait for a lock.
-/

set_option autoImplicit false

namespace Turnstile

open Time (DateTime)

/-- What a client can ask of the store. -/
inductive StoreRequest where
  /-- Begin a transaction. -/
  | begin
  /-- Take the lock of a label and read its row. -/
  | lock (label : Label)
  /-- Stage a row. -/
  | save (record : Record)
  /-- Stage an entry. -/
  | append (move : Move)
  /-- Read the entries of a label within the transaction. -/
  | ownHistory (label : Label)
  /-- End the transaction and keep what it staged. -/
  | commit
  /-- End the transaction and forget what it staged. -/
  | rollback
  /-- Read the committed row of a label. -/
  | row (label : Label)
  /-- Read the committed entries of a label. -/
  | history (label : Label)
  /-- Read the rows of the live labels in a state. -/
  | rowsInState (machine state : String)
  /-- Read the names of a machine's live labels. -/
  | liveNames (machine : String)

namespace StoreRequest

/-- What a request yields unless the store refuses. -/
abbrev Result : StoreRequest → Type
  | .begin => Unit
  | .lock _ => Option Record
  | .save _ => Unit
  | .append _ => Entry
  | .ownHistory _ => List Entry
  | .commit => Unit
  | .rollback => Unit
  | .row _ => Option Record
  | .history _ => List Entry
  | .rowsInState _ _ => List Record
  | .liveNames _ => List String

/-- Answer a request of a client, at an instant. -/
def serve (client : Client) (now : DateTime) (s : Store) :
    (request : StoreRequest) → Option (Except StoreError request.Result × Store)
  | .begin => some (.ok (), s.begin client)
  | .lock label => (s.lock? client label).map fun (found, s) => (.ok found, s)
  | .save record =>
    match s.save client record with
    | .ok s => some (.ok (), s)
    | .error refusal => some (.error refusal, s)
  | .append move =>
    match s.append client move now with
    | .ok (entry, s) => some (.ok entry, s)
    | .error refusal => some (.error refusal, s)
  | .ownHistory label => some (.ok (s.ownHistory client label), s)
  | .commit => some (.ok (), s.commit client)
  | .rollback => some (.ok (), s.rollback client)
  | .row label => some (.ok (s.row? label), s)
  | .history label => some (.ok (s.history label), s)
  | .rowsInState machine state => some (.ok (s.rowsInState machine state), s)
  | .liveNames machine => some (.ok (s.liveNames machine), s)

end StoreRequest

end Turnstile
