import Turnstile.Flow.Machine

/-!
# Reachable states

The search starts at the first state and follows declared destinations.  A destination
stands for the first state of its name; one that names no state leads nowhere.
-/

set_option autoImplicit false

namespace Turnstile

/-- The states whose names have not been reached. -/
def unreached (states : List State) (seen : List String) : List State :=
  states.filter fun s => !seen.contains s.name

/-- Reaching the name of a state leaves fewer states unreached. -/
theorem unreached_cons_lt {states : List State} {seen : List String}
    {name : String} {s : State} (found : findState states name = some s)
    (new : ¬ seen.contains name) :
    (unreached states (name :: seen)).length < (unreached states seen).length := by
  have member : s ∈ states := List.mem_of_find?_eq_some found
  have named : s.name = name := by simpa using List.find?_some found
  have shrinks : unreached states (name :: seen)
      = (unreached states seen).filter fun s => s.name != name := by
    simp only [unreached, List.filter_filter]
    congr 1
    funext t
    by_cases same : t.name = name <;> simp [same]
  rw [shrinks]
  refine List.length_filter_lt_length_iff_exists.2 ⟨s, ?_, by simp [named]⟩
  refine List.mem_filter.2 ⟨member, ?_⟩
  simp [named] at new ⊢
  exact new

/-- The names reached from those waiting in a queue, added to those already seen. -/
def reachFrom (states : List State) (queue seen : List String) : List String :=
  match queue with
  | [] => seen
  | name :: rest =>
    if _new : seen.contains name then reachFrom states rest seen
    else
      match _found : findState states name with
      | none => reachFrom states rest seen
      | some s => reachFrom states (rest ++ s.destinations) (name :: seen)
termination_by ((unreached states seen).length, queue.length)
decreasing_by
  · exact Prod.Lex.right _ (Nat.lt_succ_self _)
  · exact Prod.Lex.right _ (Nat.lt_succ_self _)
  · exact Prod.Lex.left _ _ (unreached_cons_lt _found _new)

/-- The names of all states that can be reached from the first one. -/
def reachedNames (states : List State) : List String :=
  reachFrom states ((states.head?.map State.name).toList) []

end Turnstile
