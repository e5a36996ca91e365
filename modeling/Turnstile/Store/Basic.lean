import Turnstile.Label

/-!
# The store

The store keeps one row for each label and a ledger of entries in the order of their
commits.  All writes go through transactions.  A transaction locks the labels it works
on; it stages rows and entries, which nobody else sees; its commit applies them at once.
A lock is held until the transaction ends, and nobody else can take it.

* A `Client` has at most one transaction; beginning another drops the first.
* `Store.lock?` answers nothing when the client has to wait.
* Numbers of entries come from a counter of the store.  A transaction that is dropped
  does not give its numbers back.
-/

set_option autoImplicit false

namespace Turnstile

open Time (DateTime)

/-- Why the store refuses. -/
inductive StoreError where
  | notLocked (label : Label)
  | backend (reason : String)
deriving DecidableEq, Repr

/-- The name of a kind of refusal. -/
def StoreError.name : StoreError → String
  | .notLocked _ => "NotLocked"
  | .backend _ => "Backend"

/-- The wording of a refusal. -/
def StoreError.message : StoreError → String
  | .notLocked label => "Label " ++ label.text ++ " must be locked before it is written"
  | .backend reason => "Store backend failed: " ++ reason

/-- Whose transaction it is. -/
inductive Client where
  | session (name : String)
  | worker (number : Nat)
deriving DecidableEq, Repr

/-- The row of a label. -/
def findRow (rows : List Record) (label : Label) : Option Record :=
  rows.find? fun row => row.label = label

/-- Put a row in place of the one of its label, or at the end. -/
def putRow (row : Record) : List Record → List Record
  | [] => [row]
  | other :: rest =>
    if other.label = row.label then row :: rest else other :: putRow row rest

/-- Put several rows, one after the other. -/
def putRows (rows staged : List Record) : List Record :=
  staged.foldl (fun acc row => putRow row acc) rows

/-- The entries of one label. -/
def entriesOf (entries : List Entry) (label : Label) : List Entry :=
  entries.filter fun entry => entry.label = label

/-- An open transaction. -/
structure Transaction where
  client : Client
  locked : List Label := []
  /-- The rows that its commit will put, at most one for each label. -/
  rows : List Record := []
  /-- The entries that its commit will add to the ledger. -/
  entries : List Entry := []

/-- Whether the transaction holds the lock of a label. -/
def Transaction.holds (t : Transaction) (label : Label) : Bool := t.locked.contains label

/-- Rows, ledger and open transactions. -/
structure Store where
  rows : List Record := []
  ledger : List Entry := []
  nextId : Int := 1
  transactions : List Transaction := []

namespace Store

/-- The open transaction of a client. -/
def transaction? (s : Store) (client : Client) : Option Transaction :=
  s.transactions.find? fun t => t.client = client

/-- Whether a client has an open transaction. -/
def isOpen (s : Store) (client : Client) : Bool := (s.transaction? client).isSome

/-- Whether the client's own transaction holds the lock of a label. -/
def holds (s : Store) (client : Client) (label : Label) : Bool :=
  (s.transaction? client).any fun t => t.holds label

/-- Whether another client's transaction holds the lock of a label. -/
def isTaken (s : Store) (client : Client) (label : Label) : Bool :=
  s.transactions.any fun t => t.client ≠ client && t.holds label

/-- Change the transaction of a client. -/
def update (s : Store) (client : Client) (change : Transaction → Transaction) : Store :=
  { s with transactions :=
    s.transactions.map fun t => if t.client = client then change t else t }

/-- End the transaction of a client; what it staged is lost. -/
def rollback (s : Store) (client : Client) : Store :=
  { s with transactions := s.transactions.filter fun t => t.client ≠ client }

/-- End all transactions; what they staged is lost. -/
def rollbackAll (s : Store) : Store := { s with transactions := [] }

/-- Begin a transaction for a client. -/
def begin (s : Store) (client : Client) : Store :=
  let s := s.rollback client
  { s with transactions := s.transactions ++ [⟨client, [], [], []⟩] }

/-- End the transaction of a client; what it staged becomes visible. -/
def commit (s : Store) (client : Client) : Store :=
  match s.transaction? client with
  | none => s
  | some t =>
    { s.rollback client with
      rows := putRows s.rows t.rows, ledger := s.ledger ++ t.entries }

/-- The committed row of a label. -/
def row? (s : Store) (label : Label) : Option Record := findRow s.rows label

/-- The committed entries of a label. -/
def history (s : Store) (label : Label) : List Entry := entriesOf s.ledger label

/-- The row of a label as the client's transaction sees it. -/
def ownRow? (s : Store) (client : Client) (label : Label) : Option Record :=
  match (s.transaction? client).bind fun t => findRow t.rows label with
  | some row => some row
  | none => s.row? label

/-- The entries of a label as the client's transaction sees them. -/
def ownHistory (s : Store) (client : Client) (label : Label) : List Entry :=
  s.history label ++
    entriesOf (((s.transaction? client).map Transaction.entries).getD []) label

/-- Take the lock of a label and read its row.  The name of a label that does not exist
is reserved.  Nothing is answered while another transaction holds the lock. -/
def lock? (s : Store) (client : Client) (label : Label) :
    Option (Option Record × Store) :=
  if s.isTaken client label then none
  else
    let s :=
      if s.holds client label then s
      else s.update client fun t => { t with locked := label :: t.locked }
    some (s.ownRow? client label, s)

/-- Stage a row. -/
def save (s : Store) (client : Client) (row : Record) : Except StoreError Store :=
  if s.holds client row.label then
    .ok (s.update client fun t => { t with rows := putRow row t.rows })
  else .error (.notLocked row.label)

/-- Stage an entry; it takes the next number. -/
def append (s : Store) (client : Client) (move : Move) (now : DateTime) :
    Except StoreError (Entry × Store) :=
  if s.holds client move.label then
    let entry : Entry := { move with id := s.nextId, created := now }
    let s := s.update client fun t => { t with entries := t.entries ++ [entry] }
    .ok (entry, { s with nextId := s.nextId + 1 })
  else .error (.notLocked move.label)

/-- The state that the last committed entry of a label entered. -/
def lastState? (s : Store) (label : Label) : Option String :=
  (s.history label).getLast?.bind (·.entered)

/-- The rows of a machine's live labels. -/
def liveRows (s : Store) (machine : String) : List Record :=
  s.rows.filter fun row => row.label.machine = machine && !row.deleted

/-- The rows of the live labels in a state, by name. -/
def rowsInState (s : Store) (machine state : String) : List Record :=
  ((s.liveRows machine).filter fun row => s.lastState? row.label == some state).mergeSort
    fun a b => a.label.name ≤ b.label.name

/-- The names of a machine's live labels, in order. -/
def liveNames (s : Store) (machine : String) : List String :=
  ((s.liveRows machine).map fun row => row.label.name).mergeSort fun a b => a ≤ b

end Store

end Turnstile
