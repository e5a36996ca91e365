import Turnstile.Value.Reader
import Turnstile.Time.Timestamp
import Turnstile.Text.Quoted

/-!
# Labels and their entries

A label is a named thing that travels through one machine.  Its `Record` holds what is
stored of it apart from its travels, and an `Entry` holds one move: the state it left
and the state it entered.  The first entry leaves no state, and the entry of a deletion
enters none.
-/

set_option autoImplicit false

namespace Turnstile

open Time (DateTime Timestamp)

/-- The name of a label within its machine. -/
structure Label where
  name : String
  machine : String
deriving DecidableEq, Repr

/-- A label is written as its machine and its name. -/
def Label.text (label : Label) : String := label.machine ++ "/" ++ label.name

/-- What is stored of a label. -/
structure Record where
  label : Label
  metadata : Value
  deleted : Bool := false
  /-- False while a change of the metadata still has to be taken to the label's gate. -/
  triggersProcessed : Bool := true

/-- A move of a label. -/
structure Move where
  label : Label
  /-- Set when the move was demanded rather than earned. -/
  forced : Bool
  left : Option String
  entered : Option String
deriving DecidableEq, Repr

namespace Move

/-- The move that brings a label into being. -/
def creation (label : Label) (state : String) : Move := ⟨label, false, none, some state⟩

/-- A move that a state earned. -/
def transition (label : Label) (source target : String) : Move :=
  ⟨label, false, some source, some target⟩

/-- A move that was demanded. -/
def demanded (label : Label) (source : Option String) (target : String) : Move :=
  ⟨label, true, source, some target⟩

/-- The move that ends a label. -/
def deletion (label : Label) (source : Option String) : Move :=
  ⟨label, false, source, none⟩

end Move

/-- A stored move, with its number and the instant it was made. -/
structure Entry extends Move where
  id : Int
  created : DateTime
deriving DecidableEq, Repr

namespace Entry

/-- Read a string. -/
def readText? : Value → Option String
  | .str s => some s
  | _ => none

/-- Read a string or null. -/
def readOptional? : Value → Option (Option String)
  | .null => some none
  | .str s => some (some s)
  | _ => none

/-- Read a label from its two fields, given by name or in order. -/
def readLabel? : Value → Option Label
  | .obj fields => do
    let name ← (Dictionary.find? fields "name").bind readText?
    let machine ← (Dictionary.find? fields "state_machine").bind readText?
    pure ⟨name, machine⟩
  | .arr [name, machine] => do
    let name ← readText? name
    let machine ← readText? machine
    pure ⟨name, machine⟩
  | _ => none

/-- Read an entry from its parts. -/
def ofParts? (id label created forced left entered : Value) : Option Entry := do
  let id ← match id with
    | .num n => n.word?
    | _ => none
  let label ← readLabel? label
  let text ← readText? created
  let created ← Timestamp.parseRelaxed? text
  let forced ← match forced with
    | .bool b => some b
    | _ => none
  let left ← readOptional? left
  let entered ← readOptional? entered
  pure { label, forced, left, entered, id, created := created.utc }

/-- Read an entry from its fields, given by name or in order; by name, the two states
may be missing. -/
def ofValue? : Value → Option Entry
  | .obj fields => do
    let id ← Dictionary.find? fields "id"
    let label ← Dictionary.find? fields "label"
    let created ← Dictionary.find? fields "created"
    let forced ← Dictionary.find? fields "forced"
    let left := (Dictionary.find? fields "old_state").getD .null
    let entered := (Dictionary.find? fields "new_state").getD .null
    ofParts? id label created forced left entered
  | .arr [id, label, created, forced, left, entered] =>
    ofParts? id label created forced left entered
  | _ => none

/-- The document of an entry. -/
def toValue (entry : Entry) : Value :=
  .object [
    ("id", .int entry.id),
    ("label", .object [
      ("name", .str entry.label.name), ("state_machine", .str entry.label.machine)]),
    ("created", .str entry.created.utcText),
    ("forced", .bool entry.forced),
    ("old_state", .ofString? entry.left),
    ("new_state", .ofString? entry.entered)]

end Entry

end Turnstile
