import Turnstile.Rehearsal.World
import Turnstile.Value.Equality

/-!
# What a scene changed

Two stores are compared: the entries that were committed in between, and the labels that
look different afterwards.
-/

set_option autoImplicit false

namespace Turnstile.Rehearsal

/-- What can be seen of a label: its row and the state that its last entry entered. -/
structure Sight where
  row : Record
  state : Option String

/-- The sight of a row in a store. -/
def sightOf (s : Store) (row : Record) : Sight := ⟨row, s.lastState? row.label⟩

/-- Whether two sights of one label look the same. -/
def Sight.same (a b : Sight) : Bool :=
  a.state = b.state && a.row.metadata.identical b.row.metadata &&
    a.row.deleted = b.row.deleted &&
    a.row.triggersProcessed = b.row.triggersProcessed

/-- The entries committed since an earlier store, by number. -/
def committedSince (before after : Store) : List Entry :=
  (after.ledger.drop before.ledger.length).mergeSort fun a b => a.id ≤ b.id

/-- Whether a row looks as it did in an earlier store. -/
def isUnchanged (before after : Store) (row : Record) : Bool :=
  match before.row? row.label with
  | some earlier => (sightOf before earlier).same (sightOf after row)
  | none => false

/-- Labels in the order of their names, then of their machines. -/
def labelBefore (a b : Label) : Bool :=
  a.name < b.name || (a.name = b.name && a.machine ≤ b.machine)

/-- The labels that look different from an earlier store, in order. -/
def changedSince (before after : Store) : List Sight :=
  ((after.rows.filter fun row => !isUnchanged before after row).map
    (sightOf after)).mergeSort
    fun a b => labelBefore a.row.label b.row.label

end Turnstile.Rehearsal
