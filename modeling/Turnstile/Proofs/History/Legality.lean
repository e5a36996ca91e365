import Mathlib.Data.List.Chain
import Turnstile.Proofs.History.Walk

/-!
# Legal histories

A history is legal when it begins with an entry that leaves no state, and every further
entry is one that the machine allows where the entry before it ended (`Machine.Allows`).
The check of a history goes through its entries one by one and stops at the first that
is not allowed.  So it finds nothing exactly if the history is legal
(`History.flaw?_eq_none_iff`), and otherwise it names an entry before which all was in
order and after which nothing can mend it (`History.exists_broken`).
-/

set_option autoImplicit false

namespace Turnstile

/-- The number of the entry that a flaw names. -/
def HistoryFlaw.id? : HistoryFlaw → Option Int
  | .empty => none
  | .secondCreation id => some id
  | .discontinuous id _ _ => some id
  | .noSuchMove id _ _ => some id
  | .afterDeletion id => some id

/-- What the machine allows for a label in a state: an entry that leaves this state and,
unless it was demanded or ends the label, enters a destination of it. -/
structure Machine.Allows (m : Machine) (current : Option String)
    (entry : Entry) : Prop where
  present : current.isSome = true
  leaves : entry.left = current
  enters : entry.forced = false →
    ∀ source target, current = some source → entry.entered = some target →
    ∃ s, m.state? source = some s ∧ target ∈ s.destinations

/-- A declared move leads to a destination of the state. -/
theorem Machine.hasEdge_iff {m : Machine} {source target : String} :
    m.hasEdge source target = true ↔
    ∃ s, m.state? source = some s ∧ target ∈ s.destinations := by
  unfold Machine.hasEdge
  cases m.state? source with
  | none => simp
  | some s => simp

namespace History

/-- The entries are one after the other what the machine allows. -/
structure Legal (h : History) (m : Machine) : Prop where
  nonempty : h.entries ≠ []
  begins : ∀ first, h.entries.head? = some first → first.left = none
  goesOn : h.entries.IsChain fun earlier later => m.Allows earlier.entered later

variable {m : Machine} {current : Option String} {entry first : Entry}
  {entries rest : List Entry} {flaw : HistoryFlaw}

/-! ## One entry -/

/-- Entries are looked at one by one. -/
theorem flawAfter_cons (m : Machine) (current : Option String) (entry : Entry)
    (rest : List Entry) :
    flawAfter m current (entry :: rest) =
      (flawAfter m current [entry]).or (flawAfter m entry.entered rest) := by
  simp only [flawAfter]
  repeat' split
  all_goals rfl

/-- One entry is without a flaw exactly if the machine allows it. -/
theorem flawAfter_singleton_eq_none_iff :
    flawAfter m current [entry] = none ↔ m.Allows current entry := by
  constructor
  · intro h
    unfold flawAfter at h
    split at h
    · cases h
    · cases current with
      | none => cases h
      | some source =>
          simp only [ne_eq, ite_not] at h
          split at h
          · next hleft =>
              refine ⟨rfl, hleft, ?_⟩
              intro hforced named target hnamed htarget
              cases hnamed
              simp only [hforced, htarget] at h
              split at h
              · next hedge => exact Machine.hasEdge_iff.1 hedge
              · cases h
          · cases h
  · intro h
    obtain ⟨source, rfl⟩ := Option.isSome_iff_exists.1 h.present
    apply flawAfter_singleton h.leaves
    intro hforced target htarget
    exact Machine.hasEdge_iff.2 (h.enters hforced source target rfl htarget)

/-- A flaw of one entry names it. -/
theorem id?_of_flawAfter_singleton (h : flawAfter m current [entry] = some flaw) :
    flaw.id? = some entry.id := by
  simp only [flawAfter] at h
  repeat' split at h
  all_goals cases h
  all_goals rfl

/-! ## All entries -/

/-- The entries after one are without a flaw exactly if each is allowed after the one
before it. -/
theorem flawAfter_eq_none_iff : flawAfter m first.entered rest = none ↔
    (first :: rest).IsChain fun earlier later => m.Allows earlier.entered later := by
  induction rest generalizing first with
  | nil => simp [flawAfter]
  | cons entry rest ih =>
      rw [flawAfter_cons, Option.or_eq_none_iff, flawAfter_singleton_eq_none_iff, ih,
        List.isChain_cons_cons]

/-- The check finds nothing exactly if the history is legal. -/
theorem flaw?_eq_none_iff :
    (History.mk entries).flaw? m = none ↔ (History.mk entries).Legal m := by
  cases entries with
  | nil =>
      constructor
      · intro h
        cases h
      · intro h
        exact absurd rfl h.nonempty
  | cons first rest =>
      simp only [flaw?]
      split
      · next hleft =>
          constructor
          · intro h
            cases h
          · intro h
            rw [h.begins first rfl] at hleft
            cases hleft
      · next hleft =>
          rw [flawAfter_eq_none_iff]
          constructor
          · intro h
            refine ⟨List.cons_ne_nil _ _, ?_, h⟩
            intro other hother
            cases hother
            simpa using hleft
          · intro h
            exact h.goesOn

/-- Where entries have a flaw, it is that of the first one that is not allowed. -/
theorem flawAfter_eq_some (h : flawAfter m current rest = some flaw) :
    ∃ before entry after, rest = before ++ entry :: after ∧
      flawAfter m current before = none ∧
      flawAfter m (stateAfter current before) [entry] = some flaw := by
  induction rest generalizing current with
  | nil => cases h
  | cons entry rest ih =>
      cases hentry : flawAfter m current [entry] with
      | some found =>
          rw [flawAfter_cons, hentry] at h
          cases h
          exact ⟨[], entry, rest, rfl, rfl, hentry⟩
      | none =>
          rw [flawAfter_cons, hentry, Option.none_or] at h
          obtain ⟨before, broken, after, rfl, hbefore, hbroken⟩ := ih h
          refine ⟨entry :: before, broken, after, rfl, ?_, ?_⟩
          · rw [flawAfter_cons, hentry, hbefore]
            rfl
          · rw [stateAfter_cons]
            exact hbroken

/-- What comes after an entry with a flaw does not matter. -/
theorem flawAfter_broken {before : List Entry}
    (hbefore : flawAfter m current before = none)
    (hbroken : flawAfter m (stateAfter current before) [entry] = some flaw)
    (others : List Entry) :
    flawAfter m current (before ++ entry :: others) = some flaw := by
  rw [flawAfter_append hbefore, flawAfter_cons, hbroken]
  rfl

/-- A flaw of entries names one of them, before which all was in order, and which
nothing after it mends. -/
theorem exists_broken (h : (History.mk entries).flaw? m = some flaw)
    (hne : entries ≠ []) :
    ∃ before entry after, entries = before ++ entry :: after ∧ flaw.id? = some entry.id ∧
      (before ≠ [] → (History.mk before).flaw? m = none) ∧
      ∀ others, (History.mk (before ++ entry :: others)).flaw? m = some flaw := by
  cases entries with
  | nil => exact absurd rfl hne
  | cons first rest =>
      simp only [flaw?] at h
      split at h
      · next hleft =>
          cases h
          refine ⟨[], first, rest, rfl, rfl, fun hempty => absurd rfl hempty, ?_⟩
          intro others
          simp only [List.nil_append, flaw?, hleft, if_true]
      · next hleft =>
          obtain ⟨before, entry, after, rfl, hbefore, hbroken⟩ := flawAfter_eq_some h
          refine ⟨first :: before, entry, after, rfl,
            id?_of_flawAfter_singleton hbroken, ?_, ?_⟩
          · intro _
            simp only [flaw?, hleft]
            exact hbefore
          · intro others
            simp only [List.cons_append, flaw?, hleft]
            exact flawAfter_broken hbefore hbroken others

/-- **The check decides which histories are legal.**  It finds nothing exactly if there
is a first entry, it leaves no state, and every further entry leaves the state that the
one before it entered and, unless it was demanded or ends the label, enters a
destination of that state.  Otherwise, if there are entries, it names the first at which
this breaks: those before it pass by themselves, and all histories that are the same up
to this entry are found to have the same flaw. -/
theorem flaw?_exact (h : History) (m : Machine) :
    (h.flaw? m = none ↔ h.Legal m) ∧
    ∀ flaw, h.flaw? m = some flaw → h.entries ≠ [] →
      ∃ before entry after, h.entries = before ++ entry :: after ∧
        flaw.id? = some entry.id ∧
        (before ≠ [] → (History.mk before).flaw? m = none) ∧
        ∀ others, (History.mk (before ++ entry :: others)).flaw? m = some flaw := by
  obtain ⟨entries⟩ := h
  refine ⟨flaw?_eq_none_iff, ?_⟩
  intro flaw hflaw hne
  exact exists_broken hflaw hne

namespace Hallway

/-- A machine with one declared move. -/
def hallway : Machine where
  name := "hallway"
  states :=
    [.gate ⟨"door", ⟨"metadata.open", [.lookup ["metadata", "open"]]⟩, [],
      .always "hall"⟩, .action ⟨"hall", "https://example.com", .stay⟩]
  feeds := []
  headerRules := []

def guest : Label := ⟨"guest", "hallway"⟩

/-- A move, at the beginning of 1970. -/
def numbered (id : Int) (move : Move) : Entry := ⟨move, id, ⟨0, ⟨0, 0⟩⟩⟩

/-- In by the door, sent back to it, and gone. -/
def passage : List Entry :=
  [numbered 1 (.creation guest "door"), numbered 2 (.transition guest "door" "hall"),
    numbered 3 (.demanded guest (some "hall") "door"),
    numbered 4 (.deletion guest (some "door"))]

/-- Then deleted from no state, and created anew. -/
def haunting : List Entry :=
  [numbered 5 (.deletion guest none), numbered 6 (.creation guest "door")]

end Hallway

open Hallway in
/-- What comes after the deletion of a guest is a flaw from its first entry on. -/
theorem flaw?_exact_hallway : (History.mk passage).Legal hallway ∧
    (History.mk (passage ++ haunting)).flaw? hallway = some (.afterDeletion 5) ∧
    (History.mk (passage ++ haunting)).entries ≠
      [] ∧ ¬ (History.mk (passage ++ haunting)).Legal hallway ∧
    ∃ before entry after, passage ++ haunting = before ++ entry :: after ∧ entry.id = 5 ∧
      ∀ others, (History.mk (before ++ entry :: others)).flaw? hallway =
        some (.afterDeletion 5) := by
  have hflaw : (History.mk (passage ++ haunting)).flaw? hallway =
      some (.afterDeletion 5) := by decide
  have hentries : (History.mk (passage ++ haunting)).entries ≠ [] := by decide
  obtain ⟨hiff, hnamed⟩ := flaw?_exact (History.mk (passage ++ haunting)) hallway
  obtain ⟨before, entry, after, hsplit, hid, -, hothers⟩ := hnamed _ hflaw hentries
  refine ⟨(flaw?_exact (History.mk passage) hallway).1.1 (by decide), hflaw,
    hentries, ?_, ?_⟩
  · intro hlegal
    rw [hiff.2 hlegal] at hflaw
    cases hflaw
  · exact ⟨before, entry, after, hsplit, (Option.some.inj hid).symm, hothers⟩

end History

end Turnstile
