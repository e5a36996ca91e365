import Turnstile.Proofs.Condition.Reads
import Turnstile.Proofs.Flow.Reports
import Turnstile.Proofs.Flow.Search

/-!
# What is reported of a machine

What counts as a mistake is said here without the check: a name that stands twice, a
destination that is no state, a state to which no path leads (`Reachable`), a feed that
a gate reads and nobody declares (`Gate.ReadsFeed`).  The place of a mistake is that of
the state or feed in the declaration; where one state can be wrong several times, a
second mark tells its mistakes apart.

`violations_exact` says that the check reports these mistakes place by place (`Reports`)
and nothing else, so that it finds nothing exactly if the machine is coherent
(`Coherent`), and that its search for reachable states ends.
-/

set_option autoImplicit false

namespace Turnstile

open Value (Path)
open Condition (Program)

/-! ## Mistakes -/

/-- The name at this place stands at an earlier place too. -/
def Repeats (names : List String) (place : Nat) (name : String) : Prop :=
  names[place]? = some name ∧ ∃ earlier, earlier < place ∧ names[earlier]? = some name

/-- The condition of a gate, or its route, reads a dotted path. -/
def Gate.ReadsAt (g : Gate) (dotted : String) : Prop :=
  (∃ path, .lookup path ∈ g.exit.code ∧ dotted = Path.dotted path) ∨
  ∃ arms, g.route = .byValue dotted arms

/-- A gate reads a feed when a path that it reads leads into the feed. -/
def Gate.ReadsFeed (g : Gate) (feed : String) : Prop :=
  ∃ dotted rest, g.ReadsAt dotted ∧ Path.ofDotted dotted = "feeds" :: feed :: rest

/-- An action routes on a path among the feeds. -/
def Action.RoutesOnFeeds (a : Action) (dotted : String) : Prop :=
  (∃ arms, a.route = .byValue dotted arms) ∧ (Path.ofDotted dotted).head? = some "feeds"

/-- A gate is to be looked at again at intervals of no time. -/
def Gate.NeverRests (g : Gate) : Prop :=
  ∃ interval, .every interval ∈ g.triggers ∧ interval.total = 0

/-- Nothing is wrong with a machine of these states and feeds. -/
structure Coherent (states : List State) (feeds : List Feed) : Prop where
  nonempty : states ≠ []
  stateNames : (states.map State.name).Nodup
  feedNames : (feeds.map Feed.name).Nodup
  destinations : ∀ s ∈ states, ∀ target ∈ s.destinations, target ∈ states.map State.name
  reachable : ∀ s ∈ states, Reachable states s.name
  declared : ∀ g, .gate g ∈ states → ∀ feed, g.ReadsFeed feed → feed ∈ feeds.map Feed.name
  actions : ∀ a, .action a ∈ states → ∀ dotted, ¬ a.RoutesOnFeeds dotted
  rests : ∀ g, .gate g ∈ states → ¬ g.NeverRests

/-! Each kind of mistake, with the place at which it is made and the violation that
reports it. -/

namespace Mistake

/-- A state has the name of one before it. -/
def RepeatedState (states : List State) (place : Nat) (v : Violation) : Prop :=
  ∃ name, Repeats (states.map State.name) place name ∧ v = .duplicateState name

/-- A feed has the name of one before it. -/
def RepeatedFeed (feeds : List Feed) (place : Nat) (v : Violation) : Prop :=
  ∃ name, Repeats (feeds.map Feed.name) place name ∧ v = .duplicateFeed name

/-- A destination of a state, by its number among the destinations, is no state. -/
def Astray (states : List State) (place : Nat ×ₗ Nat) (v : Violation) : Prop :=
  ∃ s target, states[(ofLex place).1]? = some s ∧
    s.destinations[(ofLex place).2]? = some target ∧
    target ∉ states.map State.name ∧ v = .unknownDestination s.name target

/-- No path leads to the name of a state. -/
def CutOff (states : List State) (place : Nat) (v : Violation) : Prop :=
  ∃ s, states[place]? = some s ∧ ¬ Reachable states s.name ∧ v = .unreachableState s.name

/-- A gate reads a feed that is not declared, or an action routes on a path among the
feeds. -/
def Misread (states : List State) (feeds : List Feed) (place : Nat ×ₗ String)
    (v : Violation) : Prop :=
  (∃ g, states[(ofLex place).1]? = some (.gate g) ∧ g.ReadsFeed (ofLex place).2 ∧
    (ofLex place).2 ∉ feeds.map Feed.name ∧ v = .undeclaredFeed g.name (ofLex place).2) ∨
  ∃ a, states[(ofLex place).1]? = some (.action a) ∧ a.RoutesOnFeeds (ofLex place).2 ∧
    v = .actionReadsFeed a.name (ofLex place).2

/-- A gate never rests. -/
def Restless (states : List State) (place : Nat) (v : Violation) : Prop :=
  ∃ g, states[place]? = some (.gate g) ∧ g.NeverRests ∧ v = .zeroInterval g.name

end Mistake

/-! ## Paths that are read -/

/-- A gate reads the paths of its condition and of its route. -/
theorem Gate.mem_reads {g : Gate} {dotted : String} :
    dotted ∈ g.reads ↔ g.ReadsAt dotted := by
  have hroute : dotted ∈ g.route.reads ↔ ∃ arms, g.route = .byValue dotted arms := by
    cases g.route with
    | stay => simp [Route.reads]
    | always state => simp [Route.reads]
    | byValue path arms => simp [Route.reads, eq_comm]
  have hexit : dotted ∈ g.exit.reads ↔
      ∃ path, .lookup path ∈ g.exit.code ∧ dotted = Path.dotted path := by
    unfold Program.reads
    rw [Text.mem_sortedNames, List.mem_filterMap]
    constructor
    · intro h
      obtain ⟨instr, hinstr, hread⟩ := h
      split at hread
      · next path => exact ⟨path, hinstr, (Option.some.inj hread).symm⟩
      · cases hread
    · intro h
      obtain ⟨path, hpath, rfl⟩ := h
      exact ⟨_, hpath, rfl⟩
  rw [Gate.reads, Text.mem_sortedNames, List.mem_append, hexit, hroute, Gate.ReadsAt]

/-- A feed is referenced by the paths that lead into it. -/
theorem Feed.mem_referenced {paths : List String} {feed : String} :
    feed ∈ Feed.referenced paths ↔
    ∃ dotted ∈ paths, ∃ rest, Path.ofDotted dotted = "feeds" :: feed :: rest := by
  unfold Feed.referenced
  rw [Text.mem_sortedNames, List.mem_filterMap]
  apply exists_congr
  intro dotted
  apply and_congr_right
  intro _
  constructor
  · intro h
    split at h
    · next name rest hpath => cases h; exact ⟨rest, hpath⟩
    · cases h
  · intro h
    obtain ⟨rest, hpath⟩ := h
    simp only [hpath]

/-- The feeds that a gate's paths reference are those that it reads. -/
theorem Gate.mem_referenced {g : Gate} {feed : String} :
    feed ∈ Feed.referenced g.reads ↔ g.ReadsFeed feed := by
  rw [Feed.mem_referenced, Gate.ReadsFeed]
  constructor
  · intro h
    obtain ⟨dotted, hread, rest, hpath⟩ := h
    exact ⟨dotted, rest, Gate.mem_reads.1 hread, hpath⟩
  · intro h
    obtain ⟨dotted, rest, hread, hpath⟩ := h
    exact ⟨dotted, Gate.mem_reads.2 hread, rest, hpath⟩

/-! ## Each kind of mistake -/

variable {states : List State} {feeds : List Feed}

/-- Each further state of a name is reported, in order. -/
theorem reports_repeatedStates (states : List State) :
    Reports (Mistake.RepeatedState states)
    ((repeated [] (states.map State.name)).map .duplicateState) := by
  apply (Reports.repeated (states.map State.name) [] .duplicateState).congr
  intro i v
  simp [Mistake.RepeatedState, Repeats, and_assoc]

/-- Each further feed of a name is reported, in order. -/
theorem reports_repeatedFeeds (feeds : List Feed) : Reports (Mistake.RepeatedFeed feeds)
    ((repeated [] (feeds.map Feed.name)).map .duplicateFeed) := by
  apply (Reports.repeated (feeds.map Feed.name) [] .duplicateFeed).congr
  intro i v
  simp [Mistake.RepeatedFeed, Repeats, and_assoc]

/-- Each destination that is not a state is reported. -/
theorem reports_astray (states : List State) :
    Reports (Mistake.Astray states) (unknownDestinations states) := by
  have hone : ∀ s : State,
      Reports (fun (j : Nat) v => ∃ target, s.destinations[j]? = some target ∧
          (!(states.map State.name).contains target) = true ∧
          v = .unknownDestination s.name target)
        ((s.destinations.filter fun target =>
          !(states.map State.name).contains target).map (.unknownDestination s.name)) :=
    fun s => .filter_map _ _ _
  apply (Reports.flatMap hone states).congr
  intro place v
  simp only [Mistake.Astray, List.contains_eq_mem, Bool.not_eq_true',
    decide_eq_false_iff_not, exists_and_left]

/-- Each state that cannot be reached is reported. -/
theorem reports_cutOff (states : List State) :
    Reports (Mistake.CutOff states) (unreachableStates states) := by
  refine (Reports.filter_map
    (fun s : State => !(reachedNames states).contains s.name) _ states).congr ?_
  intro i v
  apply exists_congr
  intro s
  apply and_congr_right
  intro hs
  have hnamed : s.name ∈ states.map State.name :=
    List.mem_map_of_mem (List.mem_of_getElem? hs)
  simp [mem_reachedNames, hnamed]

/-- Each feed that is read and not declared is reported. -/
theorem reports_misread (states : List State) (feeds : List Feed) :
    Reports (Mistake.Misread states feeds) (states.flatMap (feedViolations feeds)) := by
  have hone : ∀ s : State, Reports (fun text v =>
      (∃ g, s = .gate g ∧ g.ReadsFeed text ∧ text ∉ feeds.map Feed.name ∧
        v = .undeclaredFeed g.name text) ∨
        ∃ a, s = .action a ∧ a.RoutesOnFeeds text ∧ v = .actionReadsFeed a.name text)
      (feedViolations feeds s) := by
    intro s
    cases s with
    | gate g =>
        have hordered : (Feed.referenced g.reads).Pairwise (· < ·) :=
          Text.pairwise_sortedNames _
        refine (Reports.of_names hordered
          (fun feed => !(feeds.map Feed.name).contains feed) _).congr ?_
        intro text v
        simp [Gate.mem_referenced]
    | action a =>
        have hordered : a.route.reads.Pairwise (· < ·) := by
          cases a.route <;> simp [Route.reads]
        apply (Reports.of_names hordered _ _).congr
        intro text v
        have hroute : text ∈ a.route.reads ↔ ∃ arms, a.route = .byValue text arms := by
          cases a.route <;> simp [Route.reads, eq_comm]
        simp [hroute, Action.RoutesOnFeeds, and_assoc]
  apply (Reports.flatMap hone states).congr
  intro place v
  simp only [Mistake.Misread]
  constructor
  · intro h
    obtain ⟨s, hs, ⟨g, rfl, hg⟩ | ⟨a, rfl, ha⟩⟩ := h
    · exact .inl ⟨g, hs, hg⟩
    · exact .inr ⟨a, hs, ha⟩
  · intro h
    rcases h with ⟨g, hs, hg⟩ | ⟨a, hs, ha⟩
    · exact ⟨_, hs, .inl ⟨g, rfl, hg⟩⟩
    · exact ⟨_, hs, .inr ⟨a, rfl, ha⟩⟩

/-- A gate never rests when a span of one of its triggers is empty. -/
theorem Gate.neverRests_iff {g : Gate} :
    g.triggers.any Trigger.isZeroInterval = true ↔ g.NeverRests := by
  rw [List.any_eq_true]
  constructor
  · intro h
    obtain ⟨trigger, htrigger, hzero⟩ := h
    cases trigger with
    | every interval => exact ⟨interval, htrigger, beq_iff_eq.1 hzero⟩
    | _ => cases hzero
  · intro h
    obtain ⟨interval, hinterval, hzero⟩ := h
    exact ⟨_, hinterval, beq_iff_eq.2 hzero⟩

/-- Each gate that never rests is reported. -/
theorem reports_restless (states : List State) :
    Reports (Mistake.Restless states) (zeroIntervals states) := by
  unfold zeroIntervals
  rw [← List.filterMap_eq_map, List.filterMap_filter, List.filterMap_filterMap]
  apply (Reports.filterMap _ states).congr
  intro i v
  constructor
  · intro h
    obtain ⟨s, hs, hreport⟩ := h
    obtain ⟨g, hgate, hzero⟩ := Option.bind_eq_some_iff.1 hreport
    split at hzero
    · next hany =>
        cases s with
        | gate =>
            cases hgate
            exact ⟨g, hs, Gate.neverRests_iff.1 hany, (Option.some.inj hzero).symm⟩
        | action => cases hgate
    · cases hzero
  · intro h
    obtain ⟨g, hs, hrestless, rfl⟩ := h
    exact ⟨_, hs,
      Option.bind_eq_some_iff.2 ⟨g, rfl, if_pos (Gate.neverRests_iff.2 hrestless)⟩⟩

/-! ## All mistakes -/

/-- Names are different when none of them repeats an earlier one. -/
theorem nodup_iff_not_repeats {names : List String} :
    names.Nodup ↔ ∀ i name, ¬ Repeats names i name := by
  rw [List.nodup_iff_getElem?_ne_getElem?]
  constructor
  · intro h i name hrepeats
    obtain ⟨hname, j, hj, hearlier⟩ := hrepeats
    have hi : i < names.length := (List.getElem?_eq_some_iff.1 hname).1
    exact h j i hj hi (hearlier.trans hname.symm)
  · intro h i j hij hj hsame
    have hname : names[j]? = some names[j] := List.getElem?_eq_getElem hj
    exact h j _ ⟨hname, i, hij, hsame.trans hname⟩

/-- A machine with states is coherent exactly if no mistake is made at any place. -/
theorem coherent_iff (hne : states ≠ []) : Coherent states feeds ↔
    (∀ i v, ¬ Mistake.RepeatedState states i v) ∧
    (∀ i v, ¬ Mistake.RepeatedFeed feeds i v) ∧
    (∀ i v, ¬ Mistake.Astray states i v) ∧ (∀ i v, ¬ Mistake.CutOff states i v) ∧
    (∀ i v, ¬ Mistake.Misread states feeds i v) ∧
    ∀ i v, ¬ Mistake.Restless states i v := by
  constructor
  · intro h
    refine ⟨?_, ?_, ?_, ?_, ?_, ?_⟩
    · intro i v hwrong
      obtain ⟨name, hrepeats, -⟩ := hwrong
      exact nodup_iff_not_repeats.1 h.stateNames i name hrepeats
    · intro i v hwrong
      obtain ⟨name, hrepeats, -⟩ := hwrong
      exact nodup_iff_not_repeats.1 h.feedNames i name hrepeats
    · intro place v hwrong
      obtain ⟨s, target, hs, htarget, hunknown, -⟩ := hwrong
      exact hunknown
        (h.destinations s (List.mem_of_getElem? hs) target (List.mem_of_getElem? htarget))
    · intro i v hwrong
      obtain ⟨s, hs, hcut, -⟩ := hwrong
      exact hcut (h.reachable s (List.mem_of_getElem? hs))
    · intro place v hwrong
      rcases hwrong with ⟨g, hs, hreads, hundeclared, -⟩ | ⟨a, hs, hroutes, -⟩
      · exact hundeclared (h.declared g (List.mem_of_getElem? hs) _ hreads)
      · exact h.actions a (List.mem_of_getElem? hs) _ hroutes
    · intro i v hwrong
      obtain ⟨g, hs, hrestless, -⟩ := hwrong
      exact h.rests g (List.mem_of_getElem? hs) hrestless
  · intro h
    obtain ⟨hstates, hfeeds, hastray, hcut, hmisread, hrestless⟩ := h
    refine ⟨hne, ?_, ?_, ?_, ?_, ?_, ?_, ?_⟩
    · exact nodup_iff_not_repeats.2 fun i name hrepeats =>
        hstates i _ ⟨name, hrepeats, rfl⟩
    · exact nodup_iff_not_repeats.2 fun i name hrepeats =>
        hfeeds i _ ⟨name, hrepeats, rfl⟩
    · intro s hs target htarget
      obtain ⟨i, hi⟩ := List.mem_iff_getElem?.1 hs
      obtain ⟨j, hj⟩ := List.mem_iff_getElem?.1 htarget
      by_contra hunknown
      exact hastray (toLex (i, j)) _ ⟨s, target, hi, hj, hunknown, rfl⟩
    · intro s hs
      obtain ⟨i, hi⟩ := List.mem_iff_getElem?.1 hs
      by_contra hunreached
      exact hcut i _ ⟨s, hi, hunreached, rfl⟩
    · intro g hg feed hreads
      obtain ⟨i, hi⟩ := List.mem_iff_getElem?.1 hg
      by_contra hundeclared
      exact hmisread (toLex (i, feed)) _ (.inl ⟨g, hi, hreads, hundeclared, rfl⟩)
    · intro a ha dotted hroutes
      obtain ⟨i, hi⟩ := List.mem_iff_getElem?.1 ha
      exact hmisread (toLex (i, dotted)) _ (.inr ⟨a, hi, hroutes, rfl⟩)
    · intro g hg hzero
      obtain ⟨i, hi⟩ := List.mem_iff_getElem?.1 hg
      exact hrestless i _ ⟨g, hi, hzero, rfl⟩

/-- The violations of a machine with states, kind after kind. -/
theorem violations_of_ne_nil (hne : states ≠ []) : violations states feeds =
    (repeated [] (states.map State.name)).map .duplicateState ++
      (repeated [] (feeds.map Feed.name)).map .duplicateFeed ++
      unknownDestinations states ++ unreachableStates states ++
      states.flatMap (feedViolations feeds) ++
      zeroIntervals states := by
  have hsome : states.isEmpty = false := by simpa using hne
  simp only [violations, hsome, Bool.false_eq_true, if_false]

/-- **The check of a machine is exact.**  It finds nothing exactly if the machine is
coherent.  Of a machine without states it reports that.  Of any other it reports each
mistake once, kind after kind: names of states and of feeds that stand a second time,
destinations that are no states, states to which no path leads from the first one,
undeclared feeds that gates read together with actions that route on feeds, and gates
that never rest; each kind in the order of the declaration.  The search for the states
that can be reached ends: no run of it has more steps than there are destinations and
one, a run goes on as long as a name waits, and when none does it has marked the reached
names. -/
theorem violations_exact (states : List State) (feeds : List Feed) :
    (violations states feeds = [] ↔ Coherent states feeds) ∧
    (states = [] → violations states feeds = [.noStates]) ∧
    (states ≠ [] → ∃ repeatedStates repeatedFeeds astray cutOff misread restless,
      violations states feeds =
        repeatedStates ++ repeatedFeeds ++ astray ++ cutOff ++ misread ++ restless ∧
      Reports (Mistake.RepeatedState states) repeatedStates ∧
      Reports (Mistake.RepeatedFeed feeds) repeatedFeeds ∧
      Reports (Mistake.Astray states) astray ∧
      Reports (Mistake.CutOff states) cutOff ∧
      Reports (Mistake.Misread states feeds) misread ∧
      Reports (Mistake.Restless states) restless) ∧
    ∀ n p, Search.Run states n (Search.start states) p →
      n ≤ (states.map fun s => s.destinations.length).sum + 1 ∧
      (p.waiting ≠ [] → ∃ q, Search.Step states p q) ∧
      (p.waiting = [] → p.marked = reachedNames states) := by
  refine ⟨?_, ?_, ?_, ?_⟩
  · by_cases hne : states = []
    · subst hne
      constructor
      · intro h
        cases h
      · intro h
        exact absurd rfl h.nonempty
    · rw [coherent_iff hne, violations_of_ne_nil hne]
      simp only [List.append_eq_nil_iff, (reports_repeatedStates states).eq_nil_iff,
        (reports_repeatedFeeds feeds).eq_nil_iff, (reports_astray states).eq_nil_iff,
        (reports_cutOff states).eq_nil_iff, (reports_misread states feeds).eq_nil_iff,
        (reports_restless states).eq_nil_iff, and_assoc]
  · intro hempty
    subst hempty
    rfl
  · intro hne
    exact ⟨_, _, _, _, _, _, violations_of_ne_nil hne, reports_repeatedStates states,
      reports_repeatedFeeds feeds, reports_astray states, reports_cutOff states,
      reports_misread states feeds, reports_restless states⟩
  · intro n p hrun
    refine ⟨?_, Search.exists_step states p, ?_⟩
    · have hlength := hrun.length_le
      have hstart := Search.work_start_le states
      omega
    · intro hdone
      obtain ⟨waiting, marked⟩ := p
      subst hdone
      exact (Search.outcome_done states marked).symm.trans hrun.outcome

namespace Cellar

/-- A gate that lets everybody through. -/
def passage (name target : String) : State :=
  .gate ⟨name, ⟨"true", [.literal (.bool true)]⟩, [], .always target⟩

/-- A circle of two states, and a second door that would lead to the cellar. -/
def house : List State :=
  [passage "door" "hall", passage "hall" "door", passage "door" "cellar",
    passage "cellar" "cellar"]

/-- The first door is the one that counts, so nobody gets out of the circle. -/
theorem cellar_not_reachable : ¬ Reachable house "cellar" := by
  intro h
  obtain ⟨first, hfirst, hpath⟩ := h
  cases hfirst
  have hcircle : ∀ name, Relation.ReflTransGen (LeadsTo house) "door" name →
      name = "door" ∨ name = "hall" := by
    intro name hpath
    induction hpath with
    | refl => exact .inl rfl
    | @tail source target _ hleads ih =>
        obtain ⟨s, hs, htarget⟩ := hleads
        rcases ih with rfl | rfl
        · cases hs
          exact .inr (List.mem_singleton.1 htarget)
        · cases hs
          exact .inl (List.mem_singleton.1 htarget)
  rcases hcircle "cellar" hpath with h | h
  · exact absurd h (by decide)
  · exact absurd h (by decide)

end Cellar

open Cellar in
/-- The second door and the cellar are reported, although the search meets the names of
both doors again and again. -/
theorem violations_exact_cellar : house ≠ [] ∧ ¬ Coherent house [] ∧
    .duplicateState "door" ∈ violations house [] ∧
    .unreachableState "cellar" ∈ violations house [] ∧
    ∀ n p, Search.Run house n (Search.start house) p → n ≤ 5 := by
  have hne : house ≠ [] := by simp [house]
  obtain ⟨hiff, -, hfound, hends⟩ := violations_exact house []
  obtain ⟨repeatedStates, _, _, cutOff, _, _, hall, hrepeated, -, -, hcut, -⟩ :=
    hfound hne
  have hdoor : .duplicateState "door" ∈ repeatedStates :=
    hrepeated.mem 2 ⟨"door", ⟨rfl, 0, by decide, rfl⟩, rfl⟩
  have hcellar : .unreachableState "cellar" ∈ cutOff :=
    hcut.mem 3 ⟨passage "cellar" "cellar", rfl, cellar_not_reachable, rfl⟩
  refine ⟨hne, ?_, ?_, ?_, ?_⟩
  · intro hcoherent
    exact cellar_not_reachable
      (hcoherent.reachable (passage "cellar" "cellar") (by simp [house]))
  · rw [hall]
    simp [hdoor]
  · rw [hall]
    simp [hcellar]
  · intro n p hrun
    exact (hends n p hrun).1

end Turnstile
