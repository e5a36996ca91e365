import Mathlib.Data.List.Chain
import Mathlib.Data.List.Perm.Subperm
import Mathlib.Logic.Relation
import Turnstile.Proofs.History.Walk

/-!
# Walks that come back

The states that a label visits by moves that it earned are a path along the declared
moves of its machine (`Walk.path`).  A path without a repetition is not longer than the
machine has states, so a longer walk has visited a state twice (`Walk.revisits`), and
then the machine has a cycle (`Machine.nodup_of_acyclic`).
-/

set_option autoImplicit false

namespace Turnstile

/-- A state of a machine leads to another by a declared move. -/
def Machine.LeadsTo (m : Machine) (source target : String) : Prop :=
  m.hasEdge source target = true

/-- No state of a machine leads back to itself, however many moves are made. -/
def Machine.Acyclic (m : Machine) : Prop :=
  ∀ state, ¬ Relation.TransGen m.LeadsTo state state

/-- The states that a label visits by some entries after others: the one it was in, and
those that were entered since. -/
def visited (before added : List Entry) : List String :=
  (before.getLast?.bind (·.entered)).toList ++ added.filterMap (·.entered)

/-- All these entries are moves of one label that states have earned. -/
def EarnedMoves (label : Label) (added : List Entry) : Prop :=
  ∀ entry ∈ added, ∃ source target, entry.toMove = .transition label source target

variable {m : Machine} {label : Label} {before added : List Entry} {start : String}
  {state : Option String}

/-- In a machine without cycles no path visits a state twice. -/
theorem Machine.nodup_of_acyclic (h : m.Acyclic) {path : List String}
    (hpath : path.IsChain m.LeadsTo) :
    path.Nodup := by
  have hchain : path.IsChain (Relation.TransGen m.LeadsTo) := hpath.imp fun _ _ => .single
  apply hchain.pairwise.imp
  intro a b hab hsame
  subst hsame
  exact h a hab

/-- The states that a label visits by moves that it earned, as a path from the state it
was in. -/
structure VisitedPath (m : Machine) (path : List String) (steps : Nat)
    (state : Option String) : Prop where
  chain : path.IsChain m.LeadsTo
  length : path.length = steps + 1
  last : path.getLast? = state
  known : ∀ name ∈ path, (m.state? name).isSome

namespace Walk

/-- **Moves that were earned** lead along the declared moves of the machine. -/
theorem path (walk : Walk m (before ++ added) state) (hstart : Walk m before (some start))
    (hearned : EarnedMoves label added) :
    VisitedPath m (visited before added) added.length state := by
  induction added using List.reverseRecOn generalizing state with
  | nil =>
      rw [List.append_nil] at walk
      have hlast : before.getLast?.bind (·.entered) = some start := hstart.last
      have hstate : state = some start := walk.last.symm.trans hlast
      have hpath : visited before [] = [start] := by simp [visited, hlast]
      rw [hpath, hstate]
      refine ⟨List.isChain_singleton _, rfl, rfl, ?_⟩
      intro name hname
      obtain rfl := List.mem_singleton.1 hname
      obtain ⟨entry, hentry, hentered⟩ := Option.bind_eq_some_iff.1 hlast
      exact hstart.entered_state entry (List.mem_of_getLast? hentry) _ hentered
  | append_singleton added entry ih =>
      obtain ⟨source', target, hmove⟩ := hearned entry (by simp)
      obtain ⟨hforced, hleft, hentered⟩ : entry.forced = false ∧
          entry.left = some source' ∧ entry.entered = some target := by
        rw [hmove]
        exact ⟨rfl, rfl, rfl⟩
      rw [← List.append_assoc] at walk
      generalize hpast : before ++ added ++ [entry] = past at walk
      cases walk with
      | creation _ _ _ =>
          have hempty : before ++ added = [] := (List.append_singleton_inj.1 hpast).1
          exact absurd (List.append_eq_nil_iff.1 hempty).1 hstart.ne_nil
      | @move past source _ walk hlater hsource hstate hedge =>
          obtain ⟨rfl, rfl⟩ := List.append_singleton_inj.1 hpast
          have hbefore :=
            ih walk fun other hother => hearned other (List.mem_append_left _ hother)
          have hpath :
              visited before (added ++ [entry]) = visited before added ++ [target] := by
            simp [visited, hentered]
          rw [hpath, hentered]
          constructor
          · apply List.isChain_append.2
            refine ⟨hbefore.chain, List.isChain_singleton _, ?_⟩
            intro a ha b hb
            rw [hbefore.last] at ha
            cases ha
            cases hb
            exact hedge hforced target hentered
          · simp [hbefore.length]
          · simp
          · intro name hname
            rcases List.mem_append.1 hname with hin | hin
            · exact hbefore.known name hin
            · obtain rfl := List.mem_singleton.1 hin
              exact hstate _ hentered

/-- Before moves that were earned a label is in a state. -/
theorem before_earned (walk : Walk m (before ++ added) state)
    (hearned : EarnedMoves label added) (hadded : added ≠ []) :
    ∃ start, Walk m before (some start) := by
  induction added using List.reverseRecOn generalizing state with
  | nil => exact absurd rfl hadded
  | append_singleton added entry ih =>
      obtain ⟨source, target, hmove⟩ := hearned entry (by simp)
      have hleft : entry.left = some source := by
        rw [hmove]
        rfl
      rw [← List.append_assoc] at walk
      generalize hpast : before ++ added ++ [entry] = past at walk
      cases walk with
      | @creation first _ hnone _ _ =>
          have hsingle : before ++ added ++ [entry] = [] ++ [first] := hpast
          obtain ⟨-, rfl⟩ := List.append_singleton_inj.1 hsingle
          rw [hnone] at hleft
          cases hleft
      | @move past source' _ walk hlater hsource hstate hedge =>
          obtain ⟨rfl, rfl⟩ := List.append_singleton_inj.1 hpast
          by_cases hnothing : added = []
          · subst hnothing
            rw [List.append_nil] at walk
            exact ⟨source', walk⟩
          · exact ih walk
              (fun other hother => hearned other (List.mem_append_left _ hother)) hnothing

/-- **Pigeonholes.**  By as many moves as the machine has states a label visits one of
them twice. -/
theorem revisits (walk : Walk m (before ++ added) state)
    (hstart : Walk m before (some start)) (hearned : EarnedMoves label added)
    (hlong : m.states.length ≤ added.length) :
    ¬ (visited before added).Nodup := by
  intro hnodup
  have hpath := walk.path hstart hearned
  have hknown : visited before added ⊆ m.states.map State.name := by
    intro name hname
    obtain ⟨found, hfound⟩ := Option.isSome_iff_exists.1 (hpath.known name hname)
    obtain ⟨hmem, rfl⟩ := Machine.mem_of_state? hfound
    exact List.mem_map_of_mem hmem
  have hshort : (visited before added).length ≤ (m.states.map State.name).length :=
    (hnodup.subperm hknown).length_le
  rw [hpath.length, List.length_map] at hshort
  omega

end Walk

end Turnstile
