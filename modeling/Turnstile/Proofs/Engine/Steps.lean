import Turnstile.Proofs.Engine.Desk

/-!
# Steps keep the contract

One lemma for each function that works within a transaction, from a lock to a whole
step.  A step on a state of a label's machine ends with a deed or with one of the
failures of a step (`stepIn_ends`, `stepCurrent_ends`), and delivers and fetches only
where the contract lets it.
-/

set_option autoImplicit false

namespace Turnstile

open Time (DateTime)

/-- The worker has just locked the label. -/
structure Desk.Opens (app : App) (label : Label) (d : Desk) : Prop where
  label : d.label = label
  saved : d.saved = none
  added : d.added = []
  heard : d.heard = []
  lawful : Lawful app d.label d.row d.past

/-- The worker has begun a transaction and has staged nothing; it may have locked the
label. -/
def View.Ready (app : App) (label : Label) (v : View) : Prop :=
  v.stance = .begun ∨ ∃ d, v.stance = .holding d ∧ d.Opens app label

/-- How a step on a label ends that is to leave a deed. -/
def StepEnds (app : App) (label : Label) (commits : Nat) (deed : Desk → Outcome → Prop) :
    Except EngineError Outcome → View → Prop
  | .ok outcome, after => ∃ d, after = ⟨commits, .holding d⟩ ∧ d.label = label ∧
      Lawful app d.label d.row d.past ∧ deed d outcome
  | .error error, after => ∃ d, after = ⟨commits, .holding d⟩ ∧ d.label = label ∧
      Lawful app d.label d.row d.past ∧ StepFailure app d error

variable {app : App} {call : Call} {label : Label} {v : View} {n : Nat} {d : Desk}

/-- A deed may be said to be less. -/
theorem StepEnds.mono {deed wider : Desk → Outcome → Prop}
    {result : Except EngineError Outcome}
    (hwider : ∀ d outcome, deed d outcome → wider d outcome)
    (h : StepEnds app label n deed result v) : StepEnds app label n wider result v := by
  cases result with
  | ok outcome =>
      obtain ⟨d, hd, hlabel, hlawful, hdeed⟩ := h
      exact ⟨d, hd, hlabel, hlawful, hwider d outcome hdeed⟩
  | error error => exact h

/-- Nothing has accepted a label that was just locked. -/
theorem Desk.Opens.unaccepted (h : d.Opens app label) : d.Unaccepted := by
  simp [Desk.Unaccepted, h.heard]

/-! ## Requests -/

/-- Notices concern nobody. -/
@[simp] theorem follows_tell {notice : Notice} {goal : Unit → View → Prop} :
    (tell notice).Follows (protocol app call) goal v ↔ goal () v :=
  ⟨fun h => h.2 () v rfl, fun h => ⟨trivial, fun _ _ hafter => hafter ▸ h⟩⟩

/-- The log concerns nobody. -/
@[simp] theorem follows_tellLog {event : LogEvent} {goal : Unit → View → Prop} :
    (tellLog event).Follows (protocol app call) goal v ↔ goal () v :=
  ⟨fun h => h.2 () v rfl, fun h => ⟨trivial, fun _ _ hafter => hafter ▸ h⟩⟩

/-- A worker who holds a lock may ask for the time. -/
theorem follows_now {goal : DateTime → View → Prop}
    (h : ∀ now, goal now ⟨n, .holding { d with heard := d.heard ++ [⟨.now, now⟩] }⟩) :
    (Work.request .now).Follows (protocol app call) goal ⟨n, .holding d⟩ :=
  ⟨⟨d, rfl⟩, fun now _ hafter => hafter ▸ h now⟩

/-- The row that a lock finds is on the desk from then on. -/
theorem follows_lockRow {goal : Except EngineError (Option Record) → View → Prop}
    (hv : v.Ready app label)
    (h : ∀ d, d.Opens app label → goal (.ok d.row) ⟨v.commits, .holding d⟩) :
    (lockRow label).Follows (protocol app call) goal v := by
  refine Attempt.follows_ofStore.2
    ⟨hv.imp id fun ⟨d, hd, hopens⟩ => ⟨d, hd, hopens.label⟩, ?_⟩
  rintro answer after (⟨-, row, past, hlawful, rfl, rfl⟩ | ⟨d, hd, rfl, rfl⟩)
  · exact h { label, row, past } ⟨rfl, rfl, rfl, rfl, hlawful⟩
  · rcases hv with hbegun | ⟨d', hd', hopens⟩
    · exact absurd (hbegun.symm.trans hd) (by simp)
    · obtain rfl : d = d' := by simpa using hd.symm.trans hd'
      have := h d hopens
      rw [show d.rowAfter = d.row by simp [Desk.rowAfter, hopens.saved]]
      rwa [← hd] at this

/-- A row saved is on the desk to be committed. -/
theorem follows_saveRow {row : Record} {goal : Except EngineError Unit → View → Prop}
    (hlabel : d.label = row.label)
    (h : goal (.ok ()) ⟨n, .holding { d with saved := some row }⟩) :
    (saveRow row).Follows (protocol app call) goal ⟨n, .holding d⟩ := by
  refine Attempt.follows_ofStore.2 ⟨⟨d, rfl, hlabel⟩, ?_⟩
  rintro answer after ⟨_, hd, rfl, rfl⟩
  cases hd
  exact h

/-- An entry appended is on the desk to be committed, with the number and time it was
given. -/
theorem follows_appendMove {move : Move} {goal : Except EngineError Entry → View → Prop}
    (hlabel : d.label = move.label) (hadded : d.added = [])
    (h : ∀ entry, Desk.Adds { d with added := [entry] } move →
      goal (.ok entry) ⟨n, .holding { d with added := [entry] }⟩) :
    (appendMove move).Follows (protocol app call) goal ⟨n, .holding d⟩ := by
  refine Attempt.follows_ofStore.2 ⟨⟨d, rfl, hlabel⟩, ?_⟩
  rintro answer after ⟨_, entry, hd, hmove, hlater, rfl, rfl⟩
  cases hd
  rw [hadded, List.nil_append]
  exact h entry ⟨entry, rfl, hmove, fun earlier hin => hlater earlier (by
    simpa [Desk.pastAfter, hadded] using hin)⟩

/-- A step reads the whole past of the label it holds. -/
theorem follows_readOwnHistory {goal : Except EngineError History → View → Prop}
    (hlabel : d.label = label) (hadded : d.added = [])
    (hlawful : Lawful app d.label d.row d.past)
    (h : goal (.ok ⟨d.past⟩) ⟨n, .holding d⟩) :
    (readOwnHistory label).Follows (protocol app call) goal ⟨n, .holding d⟩ := by
  refine Attempt.follows_bind.2 (Attempt.follows_ofStore.2 ⟨⟨d, rfl, hlabel⟩, ?_⟩)
  rintro answer after ⟨_, hd, rfl, rfl⟩
  cases hd
  have hsorted : History.ofEntries d.pastAfter = ⟨d.past⟩ := by
    rw [Desk.pastAfter, hadded, List.append_nil, hlawful.ofEntries]
  simpa [afterward, Except.mapError, hsorted] using h

/-- A label is locked; it is unknown, deleted, or live with its row and its history. -/
theorem follows_lockLive_cases
    {goal : Except EngineError (Record × History) → View → Prop}
    (hv : v.Ready app label)
    (hunborn : ∀ d, d.Opens app label → d.row = none →
      goal (.error (.unknownLabel label)) ⟨v.commits, .holding d⟩)
    (hdeleted : ∀ d row, d.Opens app label → d.row = some row → row.deleted = true →
      goal (.error (.deletedLabel label)) ⟨v.commits, .holding d⟩)
    (h : ∀ d row, d.Opens app label → d.Live row →
      goal (.ok (row, ⟨d.past⟩)) ⟨v.commits, .holding d⟩) :
    (lockLive label).Follows (protocol app call) goal v := by
  refine Attempt.follows_bind.2 (follows_lockRow hv fun d hopens => ?_)
  simp only [afterward]
  cases hrow : d.row with
  | none => exact hunborn d hopens hrow
  | some row =>
      cases hended : row.deleted with
      | true =>
          simp only [hended, if_true]
          exact hdeleted d row hopens hrow hended
      | false =>
          simp only [hended, Bool.false_eq_true, if_false]
          exact Attempt.follows_bind.2
            (follows_readOwnHistory hopens.label hopens.added hopens.lawful
              (h d row hopens ⟨hrow, hended⟩))

/-- A label that is not live when it is locked is one of the failures of a step. -/
theorem follows_lockLive {goal : Except EngineError (Record × History) → View → Prop}
    (hv : v.Ready app label)
    (hfailure : ∀ d error, d.Opens app label → StepFailure app d error →
      goal (.error error) ⟨v.commits, .holding d⟩)
    (h : ∀ d row, d.Opens app label → d.Live row →
      goal (.ok (row, ⟨d.past⟩)) ⟨v.commits, .holding d⟩) :
    (lockLive label).Follows (protocol app call) goal v :=
  follows_lockLive_cases hv
    (fun d hopens hrow => hopens.label ▸ hfailure d _ hopens (.unborn hrow))
    (fun d _ hopens hrow hdeleted =>
      hopens.label ▸ hfailure d _ hopens (.deleted hrow hdeleted)) h

/-! ## Gates -/

/-- Where a label is does not depend on what was staged and heard. -/
theorem Desk.At.working {m : Machine} {state : State} {row : Record}
    (hat : d.At app m state row) (saved : Option Record) (added : List Entry)
    (heard : List Exchange) :
    { d with saved := saved, added := added, heard := heard }.At app m state row :=
  ⟨hat.machine, hat.member, hat.live, hat.here⟩

/-- Marking puts the marked row on the desk. -/
theorem follows_markProcessed {row : Record}
    {goal : Except EngineError Unit → View → Prop}
    (hlabel : d.label = row.label) (hsaved : d.saved = none)
    (h : goal (.ok ()) ⟨n, .holding { d with saved := row.marked }⟩) :
    (markProcessed row).Follows (protocol app call) goal ⟨n, .holding d⟩ := by
  unfold markProcessed
  split
  · next hmark =>
      rw [Record.marked, if_pos hmark, ← hsaved] at h
      exact h
  · next hmark =>
      rw [Record.marked, if_neg hmark] at h
      exact follows_saveRow hlabel h

/-- A feed may be fetched for a gate that labels leave; what follows gets its answer. -/
theorem follows_fetch {m : Machine} {gate : Gate} {row : Record} {feed : Feed}
    {goal : Except FeedError Value → View → Prop} (hat : d.At app m (.gate gate) row)
    (hopen : gate.route.isTerminal = false) (hfeed : feed ∈ m.feeds)
    (h : ∀ answer, goal answer
      ⟨n, .holding { d with
        heard := d.heard ++ [⟨.fetch (feed.urlFor d.label), answer⟩] }⟩) :
    (Work.request (.fetch (feed.urlFor d.label))).Follows (protocol app call) goal
      ⟨n, .holding d⟩ :=
  ⟨⟨d, m, gate, row, feed, rfl, hat, hopen, hfeed, rfl⟩,
    fun answer _ hafter => hafter ▸ h answer⟩

/-- The feeds of a gate are fetched one after the other, up to one that is not declared
or not answered. -/
theorem follows_gatherFeeds {m : Machine} {gate : Gate} {row : Record}
    {names : List String} {context : Context}
    {goal : Except FeedError Context → View → Prop}
    (hat : d.At app m (.gate gate) row) (hopen : gate.route.isTerminal = false)
    (hlabel : context.label = d.label)
    (hok : ∀ heard after, d.heard ⊆ heard → Gathered m heard context names after →
      goal (.ok after) ⟨n, .holding { d with heard := heard }⟩)
    (herror : ∀ heard error,
      ((∃ name ∈ names, m.feed? name = none ∧ error = .undeclared name) ∨
        ∃ url, ⟨.fetch url, .error error⟩ ∈ heard) →
      goal (.error error) ⟨n, .holding { d with heard := heard }⟩) :
    (gatherFeeds m context names).Follows (protocol app call) goal ⟨n, .holding d⟩ := by
  induction names generalizing context d with
  | nil => exact hok d.heard context (List.Subset.refl _) (.nil context)
  | cons name rest ih =>
      rw [gatherFeeds]
      split
      · next hfeed => exact herror d.heard _ (.inl ⟨name, by simp, hfeed, rfl⟩)
      · next feed hfeed =>
          have hdeclared : feed ∈ m.feeds := List.mem_of_find?_eq_some hfeed
          rw [Work.follows_bind, follows_tell, Work.follows_bind, hlabel]
          refine follows_fetch hat hopen hdeclared fun answer => ?_
          cases answer with
          | error error =>
              rw [Work.follows_bind, follows_tell]
              exact herror _ error (.inr ⟨feed.urlFor d.label, by simp⟩)
          | ok document =>
              rw [Work.follows_bind, follows_tell]
              refine ih (hat.working _ _ _) hlabel (fun heard after hmore hgathered => ?_)
                fun heard error hcause => ?_
              · have hsaid :=
                  hmore (List.mem_append_right d.heard (List.mem_singleton_self _))
                refine hok heard after
                  (fun _ hin => hmore (List.mem_append_left _ hin)) ?_
                exact .cons hfeed (hlabel ▸ hsaid) hgathered
              · refine herror heard error (hcause.imp_left ?_)
                rintro ⟨other, hin, hother⟩
                exact ⟨other, List.mem_cons_of_mem name hin, hother⟩

/-- A label leaves a state, or the route of the state leads nowhere. -/
theorem follows_leave {source : String} {route : Route} {context : Context}
    {goal : Except EngineError Outcome → View → Prop} (hlabel : d.label = label)
    (hadded : d.added = [])
    (herror : ∀ cause, route.next context.lookup = .error cause →
      goal (.error (.route cause)) ⟨n, .holding d⟩)
    (h : ∀ target entry, route.next context.lookup = .ok target →
      Desk.Adds { d with added := [entry] } (.transition label source target) →
      goal (.ok (.moved source target)) ⟨n, .holding { d with added := [entry] }⟩) :
    (leave label source route context).Follows (protocol app call) goal
      ⟨n, .holding d⟩ := by
  refine Attempt.follows_bind.2 (Attempt.follows_ofExcept.2 ?_)
  cases hnext : route.next context.lookup with
  | error cause => exact herror cause hnext
  | ok target =>
      exact Attempt.follows_bind.2 (follows_appendMove hlabel hadded fun entry hadds =>
        h target entry hnext hadds)

/-- What a gate saw decides on the label. -/
theorem follows_decision {m : Machine} {gate : Gate} {row : Record} {context : Context}
    {now : DateTime} (hlabel : d.label = label)
    (hlawful : Lawful app d.label d.row d.past)
    (hat : d.At app m (.gate gate) row) (hopen : gate.route.isTerminal = false)
    (hsaved : d.saved = row.marked) (hadded : d.added = [])
    (hsaw : d.Saw m gate row context now) :
    (do
      let passed ← Attempt.ofExcept (EngineError.evaluation gate.name)
        (gate.exit.run context.lookup (.aware now))
      if passed then leave label gate.name gate.route context else pure .stayed :
        Attempt Outcome).Follows
      (protocol app call) (StepEnds app label n (StepDeed app · (.gate gate)))
        ⟨n, .holding d⟩ := by
  refine Attempt.follows_bind.2 (Attempt.follows_ofExcept.2 ?_)
  cases hrun : gate.exit.run context.lookup (.aware now) with
  | error cause => exact ⟨d, rfl, hlabel, hlawful, .unevaluated hat hsaw hrun⟩
  | ok passed =>
      cases passed with
      | false =>
          exact ⟨d, rfl, hlabel, hlawful,
            .looked hat hsaved hadded (.inr ⟨context, now, hsaw, hrun⟩)⟩
      | true =>
          refine follows_leave hlabel hadded (fun cause hnext => ?_)
            fun target entry hnext hadds => ?_
          · exact ⟨d, rfl, hlabel, hlawful, .unrouted hat hopen hsaw hnext⟩
          · exact ⟨_, rfl, hlabel, hlawful,
              .passed (hat.working _ _ _) hsaved hsaw hrun hnext (hlabel ▸ hadds)⟩

/-- **A look at a gate.**  It fails for one of the reasons of a step, or leaves what a
step may commit. -/
theorem stepGate_ends {m : Machine} {gate : Gate} (hv : v.Ready app label)
    (hmachine : app.machine label.machine = .ok m) (hmember : .gate gate ∈ m.states) :
    (stepGate m gate label).Follows (protocol app call)
      (StepEnds app label v.commits (StepDeed app · (.gate gate))) v := by
  refine Attempt.follows_bind.2 (follows_lockLive hv
    (fun d error hopens hfailure => ⟨d, rfl, hopens.label, hopens.lawful, hfailure⟩)
    fun d row hopens hlive => ?_)
  obtain ⟨-, -, -, hown, -⟩ := hopens.lawful.of_live hlive
  simp only [afterward]
  split
  · next haway =>
      exact ⟨d, rfl, hopens.label, hopens.lawful,
        .stayed (.inl haway) hopens.unaccepted hopens.saved hopens.added⟩
  · next hhere =>
      have hat : d.At app m (.gate gate) row :=
        ⟨hopens.label ▸ hmachine, hmember, hlive, not_not.1 hhere⟩
      refine Attempt.follows_bind.2 (follows_markProcessed hown.symm hopens.saved ?_)
      simp only [afterward]
      split
      · next hterminal =>
          exact ⟨_, rfl, hopens.label, hopens.lawful,
            .looked (hat.working _ _ _) rfl hopens.added (.inl hterminal)⟩
      · next hterminal =>
          have hopen : gate.route.isTerminal = false := by simpa using hterminal
          refine Attempt.follows_bind.2
            (Attempt.follows_ofWork.2 (follows_now fun now => ?_))
          refine Attempt.follows_bind.2 (Attempt.follows_ofWork.2 ?_)
          refine follows_gatherFeeds (hat.working _ _ _) hopen hopens.label.symm ?_ ?_
          · intro heard context hmore hgathered
            have hnow := hmore (List.mem_append_right d.heard (List.mem_singleton_self _))
            exact Attempt.follows_bind.2 (follows_decision hopens.label hopens.lawful
              (hat.working _ _ _) hopen rfl hopens.added ⟨hopens.label ▸ hgathered, hnow⟩)
          · rintro heard error (⟨name, hname, hfeed, rfl⟩ | ⟨url, hheard⟩)
            · exact ⟨_, rfl, hopens.label, hopens.lawful,
                .undeclared (hat.working _ _ _) hname hfeed⟩
            · exact ⟨_, rfl, hopens.label, hopens.lawful,
                .unanswered (hat.working _ _ _) hheard⟩

/-! ## Actions -/

/-- An action that labels leave may be delivered; what follows gets the answer. -/
theorem follows_deliver {m : Machine} {action : Action} {row : Record} {entry : Entry}
    {goal : Delivered → View → Prop} (hheard : d.heard = [])
    (hat : d.At app m (.action action) row) (hcurrent : d.current? = some entry)
    (hopen : action.route.isTerminal = false)
    (h : ∀ answer, goal answer ⟨n, .holding { d with
      heard := d.heard ++
        [⟨.deliver (action.delivery d.label row.metadata entry), answer⟩] }⟩) :
    (deliver m action d.label row.metadata entry).Follows (protocol app call) goal
      ⟨n, .holding d⟩ := by
  rw [deliver, Work.follows_bind, follows_tell, Work.follows_bind]
  refine ⟨⟨d, m, action, row, entry, rfl, hheard, hat, hcurrent, hopen, rfl⟩,
    fun answer after hafter => ?_⟩
  obtain rfl : after = _ := hafter
  rw [Work.follows_done, Work.follows_bind, follows_tell]
  exact h answer

/-- The entry into a state is the current one. -/
theorem entryInto?_eq_some {past : List Entry} {state : String} {entry : Entry}
    (h : (History.mk past).entryInto? state = some entry) :
    past.getLast? = some entry ∧ entry.entered = some state := by
  obtain ⟨hcurrent, hstate⟩ := Option.filter_eq_some_iff.1 h
  exact ⟨hcurrent, by simpa using hstate⟩

/-- **A delivery of an action.**  It fails for one of the reasons of a step, or leaves
what a step may commit. -/
theorem stepAction_ends {m : Machine} {action : Action} (hv : v.Ready app label)
    (hmachine : app.machine label.machine = .ok m) (hmember : .action action ∈ m.states) :
    (stepAction app m action label).Follows (protocol app call)
      (StepEnds app label v.commits (StepDeed app · (.action action))) v := by
  refine Attempt.follows_bind.2 (follows_lockLive hv
    (fun d error hopens hfailure => ⟨d, rfl, hopens.label, hopens.lawful, hfailure⟩)
    fun d row hopens hlive => ?_)
  simp only [afterward]
  have hstays :
      StepEnds app label v.commits (StepDeed app · (.action action)) (.ok .stayed)
        ⟨v.commits, .holding d⟩ :=
    ⟨d, rfl, hopens.label, hopens.lawful,
      .stayed (.inr ⟨action, rfl⟩) hopens.unaccepted hopens.saved hopens.added⟩
  split
  · exact hstays
  · next entry hentry =>
      obtain ⟨hcurrent, hentered⟩ := entryInto?_eq_some hentry
      have hat : d.At app m (.action action) row :=
        ⟨hopens.label ▸ hmachine, hmember, hlive, by
          simp [Desk.state?, Desk.current?, hcurrent, hentered, State.name]⟩
      split
      · exact hstays
      · next hterminal =>
          have hopen : action.route.isTerminal = false := by simpa using hterminal
          split
          · next hreceiver =>
              exact ⟨d, rfl, hopens.label, hopens.lawful, .unreceived hat hopens.heard
                (by simpa using hreceiver)⟩
          · obtain rfl := hopens.label
            refine Attempt.follows_bind.2 (Attempt.follows_ofWork.2
              (follows_deliver hopens.heard hat hcurrent hopen fun answer => ?_))
            have hrefused : ∀ answer, answer ≠ .success → StepEnds app d.label v.commits
                (StepDeed app · (.action action)) (.ok .stayed)
                ⟨v.commits, .holding { d with
                  heard := d.heard ++
                    [⟨.deliver (action.delivery d.label row.metadata entry),
                      answer⟩] }⟩ :=
              fun answer hanswer =>
                ⟨_, rfl, rfl, hopens.lawful, .stayed (.inr ⟨action, rfl⟩)
                  (fun delivery => by simp [hopens.heard, hanswer.symm])
                    hopens.saved hopens.added⟩
            cases answer with
            | success =>
                refine follows_leave rfl hopens.added (fun cause hnext => ?_)
                  fun target entry hnext hadds => ?_
                · exact ⟨_, rfl, rfl, hopens.lawful,
                    .stranded (hat.working _ _ _) hcurrent hopen hnext⟩
                · exact ⟨_, rfl, rfl, hopens.lawful,
                    .accepted (hat.working _ _ _) hcurrent hopens.saved
                    (by simp) hnext hadds⟩
            | retry => exact hrefused .retry (by simp)
            | fail => exact hrefused .fail (by simp)

/-! ## Steps -/

/-- **A step on a state.** -/
theorem stepIn_ends {m : Machine} {state : State} (hv : v.Ready app label)
    (hmachine : app.machine label.machine = .ok m) (hmember : state ∈ m.states) :
    (stepIn app m state label).Follows (protocol app call)
      (StepEnds app label v.commits (StepDeed app · state)) v := by
  cases state with
  | gate gate => exact stepGate_ends hv hmachine hmember
  | action action => exact stepAction_ends hv hmachine hmember

/-- **A step on whatever state a label is in.** -/
theorem stepCurrent_ends {m : Machine} (hv : v.Ready app label)
    (hmachine : app.machine label.machine = .ok m) :
    (stepCurrent app m label).Follows (protocol app call)
      (StepEnds app label v.commits fun d outcome =>
        ∃ state, StepDeed app d state outcome) v := by
  refine Attempt.follows_bind.2 (follows_lockLive hv
    (fun d error hopens hfailure => ⟨d, rfl, hopens.label, hopens.lawful, hfailure⟩)
    fun d row hopens hlive => ?_)
  obtain ⟨-, state, -, -, -, hstate⟩ := hopens.lawful.of_live hlive
  have hname : (History.mk d.past).state? = some state := hstate
  simp only [afterward, hname]
  refine Attempt.follows_bind.2 (Attempt.follows_ofExcept.2 ?_)
  cases hfound : m.stateNamed state with
  | error error =>
      unfold Machine.stateNamed at hfound
      split at hfound
      · cases hfound
      · next hunknown =>
          cases hfound
          exact ⟨d, rfl, hopens.label, hopens.lawful,
            .lost (hopens.label ▸ hmachine) hlive hstate hunknown⟩
  | ok found =>
      exact (stepIn_ends (v := ⟨v.commits, .holding d⟩) (.inr ⟨d, rfl, hopens⟩) hmachine
        (Machine.mem_of_stateNamed hfound).1).mono fun _ _ =>
        StepEnds.mono fun _ _ h => ⟨found, h⟩

end Turnstile
