import Mathlib.Data.List.Basic
import Turnstile.Proofs.Flow.Built
import Turnstile.History

/-!
# Walks

A walk through a machine begins in its first state and grows by one entry at a time.
Every further entry has a greater number than all before it, leaves the state that the
label is in, enters a state of the machine or none, and follows a declared move unless
it was demanded.  Nothing is added once the label is in no state.

`Walk` says this of a list of entries.  Everything that is asked of a history follows:
it has no flaw (`Walk.flaw?_eq_none`), its numbers increase (`Walk.ids`), only its first
entry leaves no state (`Walk.creation_first`), it enters states of the machine only
(`Walk.entered_state`), and the state after it is that of its last entry (`Walk.last`).
-/

set_option autoImplicit false

namespace Turnstile

/-- The entries of a walk through a machine, and the state after them. -/
inductive Walk (m : Machine) : List Entry → Option String → Prop
  | creation {entry : Entry} {first : State} (hleft : entry.left = none)
      (hfirst : m.initial? = some first) (hentered : entry.entered = some first.name) :
      Walk m [entry] (some first.name)
  | move {past : List Entry} {source : String} {entry : Entry}
      (walk : Walk m past (some source))
      (hlater : ∀ earlier ∈ past, earlier.id < entry.id)
      (hleft : entry.left = some source)
      (hstate : ∀ target, entry.entered = some target → (m.state? target).isSome)
      (hedge : entry.forced = false → ∀ target, entry.entered = some target →
        m.hasEdge source target = true) :
      Walk m (past ++ [entry]) entry.entered

namespace History

/-- The state after some entries: the one that the last of them entered. -/
def stateAfter (current : Option String) (past : List Entry) : Option String :=
  past.getLast?.elim current (·.entered)

@[simp] theorem stateAfter_cons (current : Option String) (entry : Entry)
    (rest : List Entry) :
    stateAfter current (entry :: rest) = stateAfter entry.entered rest := by
  rw [stateAfter, stateAfter, List.getLast?_cons]
  cases rest.getLast? <;> rfl

/-- Entries after ones without a flaw are looked at from the state that those lead to. -/
theorem flawAfter_append {m : Machine} {current : Option String} {past : List Entry}
    (hpast : flawAfter m current past = none) (more : List Entry) :
    flawAfter m current (past ++ more) = flawAfter m (stateAfter current past) more := by
  fun_induction flawAfter m current past with
  | case1 => rfl
  | case2 => cases hpast
  | case3 => cases hpast
  | case4 => cases hpast
  | case5 entry rest hfirst source hsame target hentered hforced hedge ih =>
      rw [stateAfter_cons, ← ih hpast, List.cons_append, flawAfter, if_neg hfirst]
      simp only [if_neg hsame, hforced, hentered, hedge, if_true]
  | case6 => cases hpast
  | case7 entry rest hfirst source hsame hother ih =>
      rw [stateAfter_cons, ← ih hpast, List.cons_append, flawAfter, if_neg hfirst]
      simp only [if_neg hsame]

/-- An entry that leaves the state it is looked at from and is a declared move, was
demanded, or ends the label, is without a flaw. -/
theorem flawAfter_singleton {m : Machine} {source : String} {entry : Entry}
    (hleft : entry.left = some source)
    (hedge : entry.forced = false → ∀ target, entry.entered = some target →
      m.hasEdge source target = true) :
    flawAfter m (some source) [entry] = none := by
  simp only [flawAfter, hleft, Option.isNone_some, Bool.false_and,
    Bool.false_eq_true, if_false, ne_eq, not_true_eq_false]
  split
  · next target hforced hentered => rw [if_pos (hedge hforced target hentered)]
  · rfl

end History

namespace Walk

variable {m : Machine} {past : List Entry} {state : Option String}

/-- A walk is not empty. -/
theorem ne_nil (walk : Walk m past state) : past ≠ [] := by
  cases walk <;> simp

/-- The state after a walk is the one that its last entry entered. -/
theorem last (walk : Walk m past state) : past.getLast?.bind (·.entered) = state := by
  cases walk with
  | creation hleft hfirst hentered => simpa using hentered
  | move walk => simp

/-- The numbers of a walk increase. -/
theorem ids (walk : Walk m past state) : past.Pairwise fun a b => a.id < b.id := by
  induction walk with
  | creation => exact List.pairwise_singleton ..
  | move walk hlater hleft hstate hedge ih =>
      exact List.pairwise_append.2 ⟨ih, List.pairwise_singleton .., fun a ha b hb => by
        obtain rfl := List.mem_singleton.1 hb
        exact hlater a ha⟩

/-- The first entry of a walk enters the first state and is the only one that leaves
none. -/
theorem creation_first (walk : Walk m past state) : ∃ first rest, past = first :: rest ∧
    first.left = none ∧
    (∃ initial, m.initial? = some initial ∧ first.entered = some initial.name) ∧
    ∀ entry ∈ rest, entry.left ≠ none := by
  induction walk with
  | @creation entry first hleft hfirst hentered =>
      exact ⟨entry, [], rfl, hleft, ⟨first, hfirst, hentered⟩, by simp⟩
  | @move past source entry walk hlater hleft hstate hedge ih =>
      obtain ⟨first, rest, rfl, hnone, hentered, hothers⟩ := ih
      refine ⟨first, rest ++ [entry], rfl, hnone, hentered, fun other hother => ?_⟩
      rcases List.mem_append.1 hother with hin | hin
      · exact hothers other hin
      · obtain rfl := List.mem_singleton.1 hin
        simp [hleft]

/-- A walk enters states of its machine only. -/
theorem entered_state (walk : Walk m past state) :
    ∀ entry ∈ past, ∀ target, entry.entered = some target → (m.state? target).isSome := by
  induction walk with
  | @creation entry first hleft hfirst hentered =>
      intro other hother target htarget
      obtain rfl := List.mem_singleton.1 hother
      obtain rfl : first.name = target := Option.some.inj (hentered.symm.trans htarget)
      exact Machine.state?_isSome_of_mem
        (List.mem_map_of_mem (Machine.mem_of_initial? hfirst))
  | move walk hlater hleft hstate hedge ih =>
      intro other hother target htarget
      rcases List.mem_append.1 hother with hin | hin
      · exact ih other hin target htarget
      · obtain rfl := List.mem_singleton.1 hin
        exact hstate target htarget

/-- A walk is a history without a flaw. -/
theorem flaw?_eq_none (walk : Walk m past state) : (History.mk past).flaw? m = none := by
  induction walk with
  | creation hleft hfirst hentered => simp [History.flaw?, hleft, History.flawAfter]
  | @move past source entry walk hlater hleft hstate hedge ih =>
      obtain ⟨first, rest, rfl, hnone, -⟩ := walk.creation_first
      have hlast : History.stateAfter first.entered rest = some source := by
        rw [← walk.last, ← History.stateAfter_cons none, History.stateAfter]
        cases (first :: rest).getLast? <;> rfl
      simp only [History.flaw?, hnone, Option.isSome_none, Bool.false_eq_true, if_false,
        List.cons_append] at ih ⊢
      rw [History.flawAfter_append ih, hlast, History.flawAfter_singleton hleft hedge]

/-- Sorting the entries of a walk leaves them as they are. -/
theorem ofEntries (walk : Walk m past state) : History.ofEntries past = ⟨past⟩ := by
  have hsorted : past.Pairwise fun a b => decide (a.id ≤ b.id) = true :=
    walk.ids.imp fun h => by simpa using Int.le_of_lt h
  rw [History.ofEntries, List.mergeSort_of_pairwise hsorted]

end Walk

end Turnstile
