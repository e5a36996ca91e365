import Mathlib.Data.List.Nodup
import Mathlib.Data.String.Basic
import Turnstile.Engine.App
import Turnstile.Flow.Blueprint

/-!
# What is known of built machines

A machine that comes of a blueprint has a first state, no name of a state stands for two
of them, and every destination is a state.  So whatever a route picks is a declared move
to a state that exists.

An application is built when its machines are.  It then finds every machine under the
machine's own name.
-/

set_option autoImplicit false

namespace Turnstile

namespace Dictionary

variable {α : Type}

/-- What was put under a key is found there, and all else stays. -/
theorem find?_insert (d : Dictionary α) (key other : String) (value : α) :
    find? (insert d key value) other = if other = key then some value
      else find? d other := by
  induction d with
  | nil => simp [insert, find?]
  | cons entry rest ih =>
      obtain ⟨k, v⟩ := entry
      by_cases hkey : key = k
      · subst hkey
        simp only [insert, if_true, find?]
        split <;> rfl
      · by_cases hless : key < k
        · simp [insert, hkey, hless, find?]
        · simp only [insert, hkey, hless, if_false, find?, ih]
          by_cases hother : other = k
          · simp [hother, show k ≠ key from fun h => hkey h.symm]
          · simp [hother]

/-- What is found in a dictionary is in it. -/
theorem mem_of_find? {d : Dictionary α} {key : String} {value : α}
    (h : find? d key = some value) : (key, value) ∈ d := by
  induction d with
  | nil => cases h
  | cons entry rest ih =>
      obtain ⟨k, v⟩ := entry
      rw [find?] at h
      split at h
      · next hkey => cases h; exact hkey ▸ List.mem_cons_self
      · exact List.mem_cons_of_mem _ (ih h)

/-- What is found after several keys were put was put or was there before. -/
theorem mem_of_find?_insertAll {d : Dictionary α}
    {entries : List (String × α)} {key : String}
    {value : α} (h : find? (insertAll d entries) key = some value) :
    (key, value) ∈ entries ∨ find? d key = some value := by
  induction entries generalizing d with
  | nil => exact .inr h
  | cons entry rest ih =>
      obtain ⟨k, v⟩ := entry
      rcases ih h with hin | hfound
      · exact .inl (List.mem_cons_of_mem _ hin)
      · rw [find?_insert] at hfound
        split at hfound
        · next hsame =>
            cases hfound
            exact .inl (hsame ▸ List.mem_cons_self)
        · exact .inr hfound

/-- What is found in a dictionary made of entries is one of them. -/
theorem mem_of_find?_ofList {entries : List (String × α)} {key : String} {value : α}
    (h : find? (ofList entries) key = some value) : (key, value) ∈ entries :=
  (mem_of_find?_insertAll h).resolve_right (by simp [find?])

/-- The keys of a dictionary increase. -/
def Sorted (d : Dictionary α) : Prop := d.keys.Pairwise (· < ·)

/-- The keys of a sorted dictionary are different. -/
theorem Sorted.nodup {d : Dictionary α} (h : d.Sorted) : d.keys.Nodup :=
  List.Pairwise.imp (fun hless => ne_of_lt hless) h

/-- To insert a key adds no other one. -/
theorem mem_keys_insert {d : Dictionary α} {key other : String} {value : α}
    (h : other ∈ (insert d key value).keys) : other = key ∨ other ∈ d.keys := by
  induction d with
  | nil => simpa [insert, keys] using h
  | cons entry rest ih =>
      obtain ⟨k, v⟩ := entry
      rw [insert] at h
      split at h
      · next hkey => exact hkey ▸ .inr (by simpa [keys] using h)
      · split at h
        · exact List.mem_cons.1 h
        · rcases List.mem_cons.1 h with rfl | hrest
          · exact .inr List.mem_cons_self
          · exact (ih hrest).imp_right (List.mem_cons_of_mem _)

/-- To insert a key keeps a dictionary sorted. -/
theorem Sorted.insert {d : Dictionary α} (h : d.Sorted) (key : String) (value : α) :
    (insert d key value).Sorted := by
  induction d with
  | nil => exact List.pairwise_singleton _ _
  | cons entry rest ih =>
      obtain ⟨k, v⟩ := entry
      obtain ⟨hfirst, hrest⟩ := List.pairwise_cons.1 h
      rw [Dictionary.insert]
      split
      · next hkey => exact List.pairwise_cons.2 ⟨hkey ▸ hfirst, hrest⟩
      · next hkey =>
          split
          · next hless =>
              refine List.pairwise_cons.2 ⟨fun other hother => ?_, h⟩
              rcases List.mem_cons.1 hother with rfl | hin
              · exact hless
              · exact lt_trans hless (hfirst other hin)
          · next hless =>
              refine List.pairwise_cons.2 ⟨fun other hother => ?_, ih hrest⟩
              rcases mem_keys_insert hother with rfl | hin
              · exact lt_of_le_of_ne (not_lt.1 hless) fun heq => hkey heq.symm
              · exact hfirst other hin

/-- What is made of a list is sorted. -/
theorem sorted_ofList (entries : List (String × α)) : (ofList entries).Sorted := by
  have hall : ∀ d : Dictionary α, d.Sorted → (insertAll d entries).Sorted := by
    induction entries with
    | nil => exact fun _ h => h
    | cons entry rest ih => exact fun d h => ih (d.insert entry.1 entry.2) (h.insert _ _)
  exact hall [] .nil

/-- What is in a dictionary is found under its key. -/
theorem Sorted.find?_of_mem {d : Dictionary α} (h : d.Sorted) {key : String} {value : α}
    (hin : (key, value) ∈ d) : find? d key = some value := by
  induction d with
  | nil => cases hin
  | cons entry rest ih =>
      obtain ⟨k, v⟩ := entry
      obtain ⟨hfirst, hrest⟩ := List.pairwise_cons.1 h
      rw [find?]
      rcases List.mem_cons.1 hin with heq | hin
      · cases heq
        exact if_pos rfl
      · have hless : k < key := hfirst key (List.mem_map_of_mem hin)
        rw [if_neg (ne_of_gt hless)]
        exact ih hrest hin

end Dictionary

/-! ## Machines -/

/-- No name is repeated when none stands twice and none was seen before. -/
theorem repeated_eq_nil {seen names : List String} (h : repeated seen names = []) :
    names.Nodup ∧ ∀ name ∈ names, name ∉ seen := by
  induction names generalizing seen with
  | nil => simp
  | cons name rest ih =>
      unfold repeated at h
      split at h
      · cases h
      · next hnew =>
          obtain ⟨hnodup, hunseen⟩ := ih h
          refine ⟨List.nodup_cons.2
            ⟨fun hin => hunseen name hin List.mem_cons_self, hnodup⟩, ?_⟩
          intro other hother hseen
          rcases List.mem_cons.1 hother with rfl | hin
          · exact hnew (List.contains_iff_mem.2 hseen)
          · exact hunseen other hin (List.mem_cons_of_mem _ hseen)

/-- A route picks one of its destinations. -/
theorem Route.next_mem_destinations {route : Route} {lookup : Value.Path → Value}
    {target : String} (h : route.next lookup = .ok target) :
    target ∈ route.destinations := by
  cases route with
  | stay => cases h
  | always state => cases h; exact List.mem_cons_self
  | byValue path arms =>
      simp only [Route.next] at h
      split at h
      · next arm harm =>
          cases h
          exact List.mem_map_of_mem (List.mem_of_find?_eq_some harm)
      · cases h

/-- What is found under a name in a list of states is one of them, and of that name. -/
theorem mem_of_findState {states : List State} {name : String} {s : State}
    (h : findState states name = some s) : s ∈ states ∧ s.name = name :=
  ⟨List.mem_of_find?_eq_some h, by simpa using List.find?_some h⟩

/-- The search goes on from a state that it has reached. -/
theorem reachFrom_new {states : List State} {name : String}
    {rest seen : List String} {s : State} (h : seen.contains name = false)
    (hfound : findState states name = some s) :
    reachFrom states (name :: rest) seen =
      reachFrom states (rest ++ s.destinations) (name :: seen) := by
  rw [reachFrom, dif_neg (Bool.not_eq_true _ ▸ h)]
  split
  · next hnone => cases hnone.symm.trans hfound
  · next found hsome => cases hsome.symm.trans hfound; rfl

/-- A blueprint makes a machine when its parts can be made and nothing is wrong with the
whole. -/
theorem Blueprint.build_eq_ok {plan : Blueprint} {states : List State}
    {rules : List (HeaderRule Pattern)}
    (hstates : plan.states.mapM StatePlan.build = .ok states)
    (hrules : (plan.headerRules.mapM fun rule => HeaderRule.build rule.1 rule.2) =
      .ok rules)
    (hvalid : violations states plan.feeds = []) :
    plan.build = .ok ⟨plan.name, states, plan.feeds, rules⟩ := by
  simp only [Blueprint.build, hstates, hrules, bind, Except.bind, hvalid]
  rfl

/-- What is made of several plans is made of each. -/
theorem exists_of_mem_mapM {ε α β : Type} {f : α → Except ε β}
    {plans : List α} {made : List β} (h : plans.mapM f = .ok made) {b : β}
    (hb : b ∈ made) : ∃ a, f a = .ok b := by
  induction plans generalizing made with
  | nil => cases h; cases hb
  | cons plan rest ih =>
      rw [List.mapM_cons] at h
      simp only [bind, Except.bind] at h
      split at h
      · cases h
      · next first hfirst =>
          split at h
          · cases h
          · next more hmore =>
              cases h
              rcases List.mem_cons.1 hb with rfl | hrest
              · exact ⟨plan, hfirst⟩
              · exact ih hmore hrest

/-- The machine came of a blueprint. -/
def Machine.Built (m : Machine) : Prop := ∃ plan : Blueprint, plan.build = .ok m

namespace Machine

variable {m : Machine}

/-- A built machine has no violations. -/
theorem Built.violations_eq_nil (hm : m.Built) : violations m.states m.feeds = [] := by
  obtain ⟨plan, hplan⟩ := hm
  simp only [Blueprint.build, bind, Except.bind] at hplan
  split at hplan
  · cases hplan
  · next states hstates =>
      split at hplan
      · cases hplan
      · next rules hrules =>
          split at hplan
          · next hnone => cases hplan; exact hnone
          · cases hplan

/-- A built machine has a first state. -/
theorem Built.states_ne_nil (hm : m.Built) : m.states ≠ [] := by
  intro hnil
  have h := hm.violations_eq_nil
  simp [violations, hnil] at h

/-- In a built machine all names of states are distinct, and all destinations are names
of states. -/
theorem Built.names (hm : m.Built) : (m.states.map State.name).Nodup ∧
    ∀ s ∈ m.states, ∀ target ∈ s.destinations, target ∈ m.states.map State.name := by
  have h := hm.violations_eq_nil
  have hne : m.states.isEmpty = false := by simpa using hm.states_ne_nil
  simp only [violations, hne, Bool.false_eq_true, if_false, List.append_eq_nil_iff,
    List.map_eq_nil_iff] at h
  refine ⟨(repeated_eq_nil h.1.1.1.1.1).1, fun s hs target htarget => ?_⟩
  have hknown := List.flatMap_eq_nil_iff.1 h.1.1.1.2 s hs
  rw [List.map_eq_nil_iff, List.filter_eq_nil_iff] at hknown
  simpa using hknown target htarget

/-- A built machine finds each of its states under the state's name. -/
theorem Built.state?_of_mem (hm : m.Built) {s : State} (hs : s ∈ m.states) :
    m.state? s.name = some s := by
  have hnodup := hm.names.1
  unfold Machine.state? findState
  generalize m.states = states at hs hnodup
  induction states with
  | nil => cases hs
  | cons first rest ih =>
      rw [List.map_cons, List.nodup_cons] at hnodup
      rcases List.mem_cons.1 hs with rfl | hs
      · simp
      · have hne : first.name ≠ s.name := fun h => hnodup.1 (h ▸ List.mem_map_of_mem hs)
        simpa [hne] using ih hs hnodup.2

/-- States of a built machine are told apart by their names. -/
theorem Built.state_unique (hm : m.Built) {s t : State} (hs : s ∈ m.states)
    (ht : t ∈ m.states) (hname : s.name = t.name) : s = t := by
  have hfound := hm.state?_of_mem hs
  rw [hname, hm.state?_of_mem ht] at hfound
  exact (Option.some.inj hfound).symm

/-- What is found under a name is a state of that name. -/
theorem mem_of_state? {name : String} {s : State} (h : m.state? name = some s) :
    s ∈ m.states ∧ s.name = name :=
  mem_of_findState h

/-- A state that is found by its name is one of the machine. -/
theorem mem_of_stateNamed {name : String} {s : State} (h : m.stateNamed name = .ok s) :
    s ∈ m.states ∧ s.name = name := by
  unfold Machine.stateNamed at h
  split at h
  · next hfound => cases h; exact mem_of_state? hfound
  · cases h

/-- Names of states are found. -/
theorem state?_isSome_of_mem {name : String} (h : name ∈ m.states.map State.name) :
    (m.state? name).isSome := by
  obtain ⟨s, hs, rfl⟩ := List.mem_map.1 h
  exact List.find?_isSome.2 ⟨s, hs, by simp⟩

/-- The initial state is one of the machine. -/
theorem mem_of_initial? {first : State} (h : m.initial? = some first) :
    first ∈ m.states :=
  List.mem_of_mem_head? h

/-- The states of a built machine were made of plans. -/
theorem Built.planned (hm : m.Built) {s : State} (hs : s ∈ m.states) :
    ∃ plan : StatePlan, plan.build = .ok s := by
  obtain ⟨plan, hplan⟩ := hm
  simp only [Blueprint.build, bind, Except.bind] at hplan
  split at hplan
  · cases hplan
  · next states hstates =>
      split at hplan
      · cases hplan
      · split at hplan
        · cases hplan
          exact exists_of_mem_mapM hstates hs
        · cases hplan

/-- The exit conditions of a built machine were compiled. -/
theorem Built.compiled (hm : m.Built) {gate : Gate} (hgate : .gate gate ∈ m.states) :
    ∃ source, Condition.Program.compile source = .ok gate.exit := by
  obtain ⟨plan, hplan⟩ := hm.planned hgate
  unfold StatePlan.build at hplan
  split at hplan
  · cases hplan
  · split at hplan
    · next exit hexit => cases hplan; exact ⟨_, hexit⟩
    · cases hplan
  · cases hplan
  · cases hplan

/-- A built machine declares every feed that its gates read. -/
theorem Built.declared (hm : m.Built) {gate : Gate}
    (hgate : .gate gate ∈ m.states) {name : String}
    (hname : name ∈ Feed.referenced gate.reads) : ∃ feed, m.feed? name = some feed := by
  have h := hm.violations_eq_nil
  have hne : m.states.isEmpty = false := by simpa using hm.states_ne_nil
  simp only [violations, hne, Bool.false_eq_true, if_false, List.append_eq_nil_iff] at h
  have hfeeds := List.flatMap_eq_nil_iff.1 h.1.2 (.gate gate) hgate
  rw [feedViolations, List.map_eq_nil_iff, List.filter_eq_nil_iff] at hfeeds
  obtain ⟨feed, hin, rfl⟩ : ∃ feed ∈ m.feeds, feed.name = name := by
    simpa using hfeeds name hname
  exact Option.isSome_iff_exists.1 (List.find?_isSome.2 ⟨feed, hin, by simp⟩)

/-- **Routes keep to the machine.**  Where the route of a state of a built machine leads
is a declared move from the state, to a state that exists. -/
theorem Built.next_edge (hm : m.Built) {s : State} (hs : s ∈ m.states)
    {lookup : Value.Path → Value} {target : String}
    (h : s.route.next lookup = .ok target) :
    m.hasEdge s.name target = true ∧ (m.state? target).isSome := by
  have hdest : target ∈ s.destinations := Route.next_mem_destinations h
  refine ⟨?_, state?_isSome_of_mem (hm.names.2 s hs target hdest)⟩
  simp [hasEdge, hm.state?_of_mem hs, hdest]

end Machine

/-! ## Applications -/

namespace App

/-- The application was made of built machines. -/
def Built (app : App) : Prop :=
  ∃ machines settings deliversForAll zones,
    app = App.ofMachines machines settings deliversForAll zones ∧ ∀ m ∈ machines, m.Built

variable {app : App} {name : String} {m : Machine}

/-- A built application finds built machines, each under its own name. -/
theorem Built.machine (happ : app.Built) (h : app.machine name = .ok m) :
    m.Built ∧ m.name = name := by
  obtain ⟨machines, settings, deliversForAll, zones, rfl, hbuilt⟩ := happ
  unfold App.machine at h
  split at h
  · next found hfound =>
      cases h
      obtain ⟨own, hown, heq⟩ := List.mem_map.1 (Dictionary.mem_of_find?_ofList hfound)
      cases heq
      exact ⟨hbuilt _ hown, rfl⟩
  · cases h

/-- A built application finds every machine that it holds. -/
theorem Built.machine_of_mem (happ : app.Built) (h : (name, m) ∈ app.machines) :
    m.name = name ∧ app.machine name = .ok m := by
  obtain ⟨machines, settings, deliversForAll, zones, rfl, -⟩ := happ
  have hfound := (Dictionary.sorted_ofList _).find?_of_mem h
  obtain ⟨own, -, heq⟩ := List.mem_map.1 (Dictionary.mem_of_find?_ofList hfound)
  cases heq
  refine ⟨rfl, ?_⟩
  unfold App.machine
  split
  · next found hfound' => rw [Option.some.inj (hfound'.symm.trans hfound)]
  · next hnone => cases hnone.symm.trans hfound

end App

end Turnstile
