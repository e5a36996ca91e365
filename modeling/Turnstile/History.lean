import Turnstile.Flow.Machine

/-!
# Histories

The history of a label is the list of its entries.  It is consistent with a machine when
it is one legal walk: it begins with a creation, every entry leaves the state that the
one before it entered, nothing follows a deletion, and moves that were not demanded
follow the machine.
-/

set_option autoImplicit false

namespace Turnstile

/-- The first entry at which a history goes wrong, and why. -/
inductive HistoryFlaw where
  | empty
  | secondCreation (id : Int)
  | discontinuous (id : Int) (expected found : Option String)
  | noSuchMove (id : Int) (source target : String)
  | afterDeletion (id : Int)
deriving DecidableEq, Repr

namespace HistoryFlaw

/-- The name of a kind of flaw. -/
def name : HistoryFlaw → String
  | .empty => "Empty"
  | .secondCreation _ => "DuplicateCreation"
  | .discontinuous _ _ _ => "Discontinuous"
  | .noSuchMove _ _ _ => "InvalidEdge"
  | .afterDeletion _ => "AfterDeletion"

/-- The number of an entry in messages. -/
def idText (id : Int) : String := String.ofList (Number.integerText id)

/-- The wording of a flaw. -/
def message : HistoryFlaw → String
  | .empty => "History is empty"
  | .secondCreation id => "Entry " ++ idText id ++ " is a second creation entry"
  | .discontinuous id expected found =>
    "Entry " ++ idText id ++ " starts from " ++ Text.quotedOption found ++
      " but the label was in " ++ Text.quotedOption expected
  | .noSuchMove id source target =>
    "Entry " ++ idText id ++ " moves " ++ source ++ " -> " ++ target ++
      ", which is not a transition of the state machine"
  | .afterDeletion id => "Entry " ++ idText id ++ " follows the deletion of the label"

end HistoryFlaw

/-- The entries of one label. -/
structure History where
  entries : List Entry
deriving DecidableEq, Repr

namespace History

/-- The history with these entries, in the order of their numbers; entries of one number
keep their order. -/
def ofEntries (entries : List Entry) : History :=
  ⟨entries.mergeSort fun a b => a.id ≤ b.id⟩

/-- The entry of the last move. -/
def current? (h : History) : Option Entry := h.entries.getLast?

/-- The state of the label: none when it was never created or is deleted. -/
def state? (h : History) : Option String := h.current?.bind (·.entered)

/-- The states that were entered, in order. -/
def path (h : History) : List String := h.entries.filterMap (·.entered)

/-- What is wrong with the entries after the first, when the label is in `current`. -/
def flawAfter (m : Machine) (current : Option String) : List Entry → Option HistoryFlaw
  | [] => none
  | entry :: rest =>
    if entry.left.isNone && entry.entered.isSome then some (.secondCreation entry.id)
    else
      match current with
      | none => some (.afterDeletion entry.id)
      | some source =>
        if entry.left ≠ some source then some (.discontinuous entry.id current entry.left)
        else
          match entry.forced, entry.entered with
          | false, some target =>
            if m.hasEdge source target then flawAfter m entry.entered rest
            else some (.noSuchMove entry.id source target)
          | _, _ => flawAfter m entry.entered rest

/-- What is wrong with a history, if it is not consistent with a machine. -/
def flaw? (h : History) (m : Machine) : Option HistoryFlaw :=
  match h.entries with
  | [] => some .empty
  | first :: rest =>
    if first.left.isSome then some (.discontinuous first.id none first.left)
    else flawAfter m first.entered rest

end History

end Turnstile
