import Turnstile.Label
import Turnstile.Value.Path

/-!
# Contexts

A context is what the conditions and routes of a state can see of a label.  Paths have
namespaces: `metadata` and `feeds` are documents, `history.entered_state` and
`history.previous_state` tell of the label's last move.  A path without a namespace
reads the metadata.
-/

set_option autoImplicit false

namespace Turnstile

/-- What is known of a label. -/
structure Context where
  label : Label
  metadata : Value
  /-- The documents of the feeds that were fetched, by name. -/
  feeds : Dictionary Value := []
  /-- The move that brought the label into its state. -/
  entry : Option Entry := none

namespace Context

/-- Add the document of a feed. -/
def withFeed (c : Context) (name : String) (document : Value) : Context :=
  { c with feeds := Dictionary.insert c.feeds name document }

/-- What a path below `history` holds. -/
def historyField? (entry : Entry) (field : String) : Option Value :=
  if field = "entered_state" then some (.str entry.created.utcMicrosText)
  else if field = "previous_state" then entry.left.map .str
  else none

/-- What a path holds, if it leads somewhere. -/
def get? (c : Context) (path : Value.Path) : Option Value :=
  match path with
  | "metadata" :: rest => c.metadata.get? rest
  | "feeds" :: name :: rest => (Dictionary.find? c.feeds name).bind fun d => d.get? rest
  | ["feeds"] => none
  | ["history", field] => c.entry.bind fun entry => historyField? entry field
  | "history" :: _ => none
  | _ => c.metadata.get? path

/-- What a path holds; null when it leads nowhere. -/
def lookup (c : Context) (path : Value.Path) : Value := (c.get? path).getD .null

end Context

end Turnstile
