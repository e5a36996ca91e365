import Mathlib
import Turnstile.Proofs.Flow.Built

/-!
# The search for reachable states

A name is reachable when a path along declared destinations leads to it from the first
state, where every name stands for the first state that has it (`Reachable`).  The
search for these names takes one waiting name at a time (`Search.Step`).  It ends on
every graph: each step leaves less to do (`Search.Step.work_lt`), since a state whose
destinations are put to the end of the queue is not met again.

What a step keeps is `Search.Tracks`: all that waits or is marked is reachable, and
where a marked name leads is waiting or marked.  When nothing waits any more, the marked
names are therefore the reachable names of states and no others (`mem_reachedNames`).
-/

set_option autoImplicit false

namespace Turnstile

/-- A name leads to another when the first state of the name has the other among its
destinations. -/
def LeadsTo (states : List State) (source target : String) : Prop :=
  ∃ s, findState states source = some s ∧ target ∈ s.destinations

/-- A path of destinations leads from the first state to the name. -/
def Reachable (states : List State) (name : String) : Prop :=
  ∃ first, states.head? = some first ∧
    Relation.ReflTransGen (LeadsTo states) first.name name

/-- The names that wait to be looked at, and those that were reached. -/
structure Search where
  waiting : List String
  marked : List String

variable {states : List State} {name : String} {s : State}

/-- A state that is found is one of those that were searched. -/
theorem name_mem_of_findState (h : findState states name = some s) :
    name ∈ states.map State.name := by
  obtain ⟨hs, hname⟩ := mem_of_findState h
  exact hname ▸ List.mem_map_of_mem hs

/-- A name of no state is not found, and every other is. -/
theorem findState_eq_none_iff :
    findState states name = none ↔ name ∉ states.map State.name := by
  simp [findState]

/-- A name that leads anywhere is the name of a state. -/
theorem LeadsTo.source_mem {target : String} (h : LeadsTo states name target) :
    name ∈ states.map State.name := by
  obtain ⟨s, hs, -⟩ := h
  exact name_mem_of_findState hs

/-- What a reachable state leads to is reachable. -/
theorem Reachable.onward {target : String} (h : Reachable states name)
    (hstep : LeadsTo states name target) : Reachable states target := by
  obtain ⟨first, hfirst, hpath⟩ := h
  exact ⟨first, hfirst, hpath.tail hstep⟩

/-- The search passes over a name that it has reached. -/
theorem reachFrom_known {rest seen : List String} (h : name ∈ seen) :
    reachFrom states (name :: rest) seen = reachFrom states rest seen := by
  rw [reachFrom, dif_pos (List.contains_iff_mem.2 h)]

/-- The search passes over a name of no state. -/
theorem reachFrom_nowhere {rest seen : List String} (hnew : name ∉ seen)
    (hnone : findState states name = none) :
    reachFrom states (name :: rest) seen = reachFrom states rest seen := by
  rw [reachFrom, dif_neg (by simpa using hnew)]
  split
  · rfl
  · next found hfound => cases hfound.symm.trans hnone

namespace Search

/-- The search begins with the first state. -/
def start (states : List State) : Search := ⟨(states.head?.map State.name).toList, []⟩

/-- One step takes the name that has waited longest.  If it is new and the name of a
state, it is marked, and the destinations of the state wait behind the others. -/
inductive Step (states : List State) : Search → Search → Prop
  | known {name : String} {rest marked : List String} (hold : name ∈ marked) :
      Step states ⟨name :: rest, marked⟩ ⟨rest, marked⟩
  | nowhere {name : String} {rest marked : List String} (hnew : name ∉ marked)
      (hnone : findState states name = none) :
        Step states ⟨name :: rest, marked⟩ ⟨rest, marked⟩
  | reach {name : String} {rest marked : List String} {s : State} (hnew : name ∉ marked)
      (hfound : findState states name = some s) :
      Step states ⟨name :: rest, marked⟩ ⟨rest ++ s.destinations, name :: marked⟩

/-- Some steps after one another. -/
inductive Run (states : List State) : Nat → Search → Search → Prop
  | none (p : Search) : Run states 0 p p
  | step {n : Nat} {p q r : Search} (hfirst : Step states p q)
      (hrest : Run states n q r) :
      Run states (n + 1) p r

/-- What is left to do at most: to look at all that waits, and at the destinations of
all states that were not reached. -/
def work (states : List State) (p : Search) : Nat :=
  p.waiting.length + ((unreached states p.marked).map fun s => s.destinations.length).sum

/-- The names that the search will have reached in the end. -/
def outcome (states : List State) (p : Search) : List String :=
  reachFrom states p.waiting p.marked

variable {p q : Search}

/-! ## The search ends -/

/-- A state that is reached is not left to do. -/
theorem unreached_sum_le {marked : List String} (hnew : name ∉ marked)
    (hfound : findState states name = some s) (size : State → Nat) :
    ((unreached states (name :: marked)).map size).sum + size s ≤
      ((unreached states marked).map size).sum := by
  obtain ⟨hs, rfl⟩ := mem_of_findState hfound
  have hleft : s ∈ unreached states marked := List.mem_filter.2 ⟨hs, by simpa using hnew⟩
  have hfewer : unreached states (s.name :: marked) =
      (unreached states marked).filter fun t => t.name != s.name := by
    rw [unreached, unreached, List.filter_filter]
    apply List.filter_congr
    intro t _
    by_cases hname : t.name = s.name <;> simp [hname]
  obtain ⟨front, back, hsplit⟩ := List.append_of_mem hleft
  rw [hfewer, hsplit]
  have hsub : (((front ++ s :: back).filter fun t => t.name != s.name).map size).Sublist
      ((front ++ back).map size) := by
    apply List.Sublist.map
    rw [List.filter_append, List.filter_cons_of_neg (by simp), ← List.filter_append]
    exact List.filter_sublist
  have hle := hsub.sum_le_sum fun n _ => Nat.zero_le n
  simp only [List.map_append, List.map_cons, List.sum_append, List.sum_cons] at hle ⊢
  omega

/-- **Less to do.**  Every step leaves less work. -/
theorem Step.work_lt (h : Step states p q) : q.work states < p.work states := by
  cases h with
  | known hold => simp [work]
  | nowhere hnew hnone => simp [work]
  | @reach name rest marked s hnew hfound =>
      have hleft := unreached_sum_le hnew hfound fun s => s.destinations.length
      simp only [work, List.length_append, List.length_cons]
      omega

/-- No run has more steps than there is work. -/
theorem Run.length_le {n : Nat} (h : Run states n p q) :
    n + q.work states ≤ p.work states := by
  induction h with
  | none => simp
  | step hfirst hrest ih =>
      have hless := hfirst.work_lt
      omega

/-- There is not more to do than to look at the first state and at every destination. -/
theorem work_start_le (states : List State) :
    (start states).work states ≤ (states.map fun s => s.destinations.length).sum + 1 := by
  have hone : (start states).waiting.length ≤ 1 := by
    cases states <;> simp [start]
  have hall : unreached states (start states).marked = states := by
    simp [start, unreached]
  rw [work, hall]
  omega

/-- The search goes on as long as a name waits. -/
theorem exists_step (states : List State) (p : Search) (h : p.waiting ≠ []) :
    ∃ q, Step states p q := by
  obtain ⟨waiting, marked⟩ := p
  cases waiting with
  | nil => exact absurd rfl h
  | cons name rest =>
      by_cases hold : name ∈ marked
      · exact ⟨_, .known hold⟩
      · cases hfound : findState states name with
        | none => exact ⟨_, .nowhere hold hfound⟩
        | some s => exact ⟨_, .reach hold hfound⟩

/-- A step does not change what the search will have reached. -/
theorem Step.outcome (h : Step states p q) : q.outcome states = p.outcome states := by
  unfold Search.outcome
  cases h with
  | known hold => exact (reachFrom_known hold).symm
  | nowhere hnew hnone => exact (reachFrom_nowhere hnew hnone).symm
  | reach hnew hfound => exact (reachFrom_new (by simpa using hnew) hfound).symm

/-- A run of the search does not change what the search finds. -/
theorem Run.outcome {n : Nat} (h : Run states n p q) :
    q.outcome states = p.outcome states := by
  induction h with
  | none => rfl
  | step hfirst _ ih => exact ih.trans hfirst.outcome

/-- When nothing waits, the marked names are the outcome. -/
theorem outcome_done (states : List State) (marked : List String) :
    outcome states ⟨[], marked⟩ = marked := by
  rw [outcome, reachFrom]

/-- **The search ends.**  Some run goes on until nothing waits, and then has marked the
outcome. -/
theorem exists_run (states : List State) (p : Search) :
    ∃ n, Run states n p ⟨[], p.outcome states⟩ := by
  induction hwork : p.work states using Nat.strong_induction_on generalizing p with
  | _ work ih =>
      by_cases hdone : p.waiting = []
      · obtain ⟨waiting, marked⟩ := p
        subst hdone
        rw [outcome_done]
        exact ⟨0, .none _⟩
      · obtain ⟨q, hstep⟩ := exists_step states p hdone
        obtain ⟨n, hrest⟩ := ih (q.work states) (hwork ▸ hstep.work_lt) q rfl
        rw [hstep.outcome] at hrest
        exact ⟨n + 1, .step hstep hrest⟩

/-! ## What the search keeps -/

/-- What is known on the way: what waits or is marked can be reached, the search has set
out from the first state, and where a marked name leads is waiting or marked. -/
structure Tracks (states : List State) (p : Search) : Prop where
  waiting : ∀ name ∈ p.waiting, Reachable states name
  marked : ∀ name ∈ p.marked, Reachable states name ∧ name ∈ states.map State.name
  begun : ∀ first, states.head? = some first →
    first.name ∈ p.waiting ∨ first.name ∈ p.marked
  onward : ∀ source ∈ p.marked, ∀ target, LeadsTo states source target →
    target ∈ states.map State.name →
    target ∈ p.waiting ∨ target ∈ p.marked

/-- At the start the search has found nothing that is not reachable. -/
theorem tracks_start (states : List State) : Tracks states (start states) := by
  constructor
  · intro name hname
    obtain ⟨first, hfirst, rfl⟩ : ∃ first, states.head? = some first ∧
        first.name = name := by
      simpa [start] using hname
    exact ⟨first, hfirst, .refl⟩
  · intro name hname
    cases hname
  · intro first hfirst
    left
    simp [start, hfirst]
  · intro source hsource
    cases hsource

/-- A step loses no name of a state: the one that is taken off was marked before, or is
marked now. -/
theorem Step.keeps {other : String} (h : Step states p q)
    (hnamed : other ∈ states.map State.name)
    (hother : other ∈ p.waiting ∨ other ∈ p.marked) :
    other ∈ q.waiting ∨ other ∈ q.marked := by
  cases h with
  | @known name rest marked hold =>
      rcases hother with hin | hin
      · rcases List.mem_cons.1 hin with rfl | hin
        · exact .inr hold
        · exact .inl hin
      · exact .inr hin
  | @nowhere name rest marked hnew hnone =>
      rcases hother with hin | hin
      · rcases List.mem_cons.1 hin with rfl | hin
        · exact absurd hnamed (findState_eq_none_iff.1 hnone)
        · exact .inl hin
      · exact .inr hin
  | @reach name rest marked s hnew hfound =>
      rcases hother with hin | hin
      · rcases List.mem_cons.1 hin with rfl | hin
        · exact .inr List.mem_cons_self
        · exact .inl (List.mem_append_left _ hin)
      · exact .inr (List.mem_cons_of_mem _ hin)

/-- Every step keeps to the reachable names and loses none. -/
theorem Tracks.step (hp : Tracks states p) (h : Step states p q) : Tracks states q := by
  have hbegun : ∀ first, states.head? = some first →
      first.name ∈ q.waiting ∨ first.name ∈ q.marked := by
    intro first hfirst
    exact h.keeps (List.mem_map_of_mem (List.mem_of_mem_head? hfirst))
      (hp.begun first hfirst)
  have honward : ∀ source ∈ p.marked, ∀ target, LeadsTo states source target →
      target ∈ states.map State.name → target ∈ q.waiting ∨ target ∈ q.marked := by
    intro source hsource target hleads htarget
    exact h.keeps htarget (hp.onward source hsource target hleads htarget)
  cases h with
  | known hold =>
      exact ⟨fun other hother => hp.waiting other (List.mem_cons_of_mem _ hother),
        hp.marked, hbegun, honward⟩
  | nowhere hnew hnone =>
      exact ⟨fun other hother => hp.waiting other (List.mem_cons_of_mem _ hother),
        hp.marked, hbegun, honward⟩
  | @reach name rest marked s hnew hfound =>
      have hname : Reachable states name := hp.waiting name List.mem_cons_self
      refine ⟨?_, ?_, hbegun, ?_⟩
      · intro other hother
        rcases List.mem_append.1 hother with hin | hin
        · exact hp.waiting other (List.mem_cons_of_mem _ hin)
        · exact hname.onward ⟨s, hfound, hin⟩
      · intro other hother
        rcases List.mem_cons.1 hother with rfl | hin
        · exact ⟨hname, name_mem_of_findState hfound⟩
        · exact hp.marked other hin
      · intro source hsource target hleads htarget
        rcases List.mem_cons.1 hsource with rfl | hin
        · -- the name that is marked now leads to what was put behind the others
          obtain ⟨found, hsame, hdestination⟩ := hleads
          cases hsame.symm.trans hfound
          exact .inl (List.mem_append_right _ hdestination)
        · exact honward source hin target hleads htarget

/-- What a step keeps, a run keeps. -/
theorem Tracks.run {n : Nat} (hp : Tracks states p) (h : Run states n p q) :
    Tracks states q := by
  induction h with
  | none => exact hp
  | step hfirst _ ih => exact ih (hp.step hfirst)

/-- When nothing waits, all names of states that can be reached are marked. -/
theorem Tracks.mem_marked {marked : List String} (h : Tracks states ⟨[], marked⟩)
    (hreachable : Reachable states name) (hnamed : name ∈ states.map State.name) :
    name ∈ marked := by
  obtain ⟨first, hfirst, hpath⟩ := hreachable
  induction hpath with
  | refl => exact (h.begun first hfirst).resolve_left (by simp)
  | @tail source target _ hleads ih =>
      exact (h.onward source (ih hleads.source_mem) target hleads hnamed).resolve_left
        (by simp)

end Search

/-- **Reached names.**  The search reaches the names of states that can be reached, and
no others. -/
theorem mem_reachedNames : name ∈ reachedNames states ↔
    Reachable states name ∧ name ∈ states.map State.name := by
  obtain ⟨n, hrun⟩ := Search.exists_run states (Search.start states)
  have htracks := (Search.tracks_start states).run hrun
  constructor
  · intro h
    exact htracks.marked name h
  · intro h
    exact htracks.mem_marked h.1 h.2

end Turnstile
