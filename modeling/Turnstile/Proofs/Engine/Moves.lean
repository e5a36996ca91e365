import Turnstile.Proofs.Engine.Updates

/-!
# Moves are earned

A label leaves a state by a move that the state has earned, unless the move was demanded
or ends the label.  A gate earns it when its exit condition is true of what is committed
for the label and of the feeds that were just fetched; an action when its webhook has
just accepted what is committed.  The lock of the label is held from the question to the
commit, so nobody can move or change the label in between.

Whoever has an accepted and routed delivery goes on to commit it (`Routed.step`), so the
label leaves the entry that was delivered, and the entry is never delivered again
(`DeliveredOnce`), unless its client vanishes before the commit.
-/

set_option autoImplicit false

namespace Turnstile

open Time (DateTime)

/-! ## What is to be shown -/

/-- How a state has earned the move of a label, whose committed row and last entry are
these, by what was heard in the transaction. -/
inductive Earned (app : App) (label : Label) (row : Record) (last : Entry)
    (heard : List Exchange) (target : String) : State → Prop
  /-- The exit condition of the gate was true. -/
  | passed {m : Machine} {gate : Gate} {context : Context} {now : DateTime}
      (hmachine : app.machine label.machine = .ok m) (hmember : .gate gate ∈ m.states)
      (hgathered : Gathered m heard ⟨label, row.metadata, [], some last⟩
        (Feed.referenced gate.reads)
        context)
      (hnow : ⟨.now, now⟩ ∈ heard)
      (hopen : gate.exit.run context.lookup (.aware now) = .ok true)
      (hnext : gate.route.next context.lookup = .ok target) :
      Earned app label row last heard target (.gate gate)
  /-- The webhook of the action has accepted the label. -/
  | accepted {m : Machine} {action : Action}
      (hmachine : app.machine label.machine = .ok m) (hmember : .action action ∈ m.states)
      (hheard : ⟨.deliver (action.delivery label row.metadata last), .success⟩ ∈ heard)
      (hnext : action.route.next (Context.mk label row.metadata [] (some last)).lookup =
        .ok target) :
      Earned app label row last heard target (.action action)

/-- Every unforced move from one state to another is committed alone, under the lock of
the label, and has been earned in its transaction by the state that it leaves. -/
def MovesEarned (app : App) (moments : List Moment) : Prop :=
  ∀ m ∈ moments, ∀ (label : Label) (entry : Entry) (source target : String),
    entry ∈ m.after.store.history label → entry ∉ m.before.store.history label →
    entry.forced = false → entry.left = some source → entry.entered = some target →
    ∃ client row last state, m.happening.isCommitOf client = true ∧
      m.before.store.holds client label = true ∧
      m.before.store.row? label = some row ∧ row.deleted = false ∧
      (m.before.store.history label).getLast? = some last ∧ last.entered = some source ∧
      m.after.store.history label = m.before.store.history label ++ [entry] ∧
      state.name = source ∧ Earned app label row last (heardOf client m.past) target state

/-- A client that holds the lock of a live label is about to work on the state of its
machine that the label is in. -/
structure Moment.WorksOn (app : App) (m : Moment) (client : Client) (label : Label)
    (machine : Machine) (state : State) (row : Record) (entry : Entry) : Prop where
  held : m.before.store.holds client label = true
  known : app.machine label.machine = .ok machine
  member : state ∈ machine.states
  stored : m.before.store.row? label = some row
  live : row.deleted = false
  current : (m.before.store.history label).getLast? = some entry
  entered : entry.entered = some state.name

/-- A client delivers an action for the entry with which a label has entered it. -/
structure Moment.Delivers (app : App) (m : Moment) (client : Client) (label : Label)
    (machine : Machine) (action : Action) (row : Record) (entry : Entry)
    (answer : Delivered) : Prop
    extends m.WorksOn app client label machine (.action action) row entry where
  said : m.happening =
    .said client ⟨.deliver (action.delivery label row.metadata entry), answer⟩

/-- Once a delivery for an entry was accepted and routed, the entry is delivered again
only if the client has vanished in between, before it has committed anything more. -/
def DeliveredOnce (app : App) (moments : List Moment) : Prop :=
  ∀ (earlier : List Moment) (m : Moment) (between : List Moment) (again : Moment)
    (later : List Moment),
    moments = earlier ++ m :: (between ++ again :: later) →
    ∀ client label machine action row entry target,
      m.Delivers app client label machine action row entry .success →
      action.route.next (Context.mk label row.metadata [] (some entry)).lookup =
        .ok target →
      ∀ client' machine' action' row' answer,
        again.Delivers app client' label machine' action' row' entry answer →
        ∃ lost ∈ between, lost.happening = .vanished client ∧
          commitsOf client lost.past = commitsOf client m.past

/-- Deliveries and fetches are made for states that labels can leave, and a state that
they cannot leave is left only by a demanded move or by the end of the label. -/
def TerminalRests (app : App) (moments : List Moment) : Prop :=
  ∀ m ∈ moments,
    (∀ client delivery answer, m.happening = .said client ⟨.deliver delivery, answer⟩ →
      ∃ label machine action row entry,
        m.Delivers app client label machine action row entry answer ∧
        action.route.isTerminal = false) ∧
    (∀ client url answer, m.happening = .said client ⟨.fetch url, answer⟩ →
      ∃ label machine gate row entry feed,
        m.WorksOn app client label machine (.gate gate) row entry ∧
        gate.route.isTerminal = false ∧ feed ∈ machine.feeds ∧ url = feed.urlFor label) ∧
    ∀ (label : Label) (entry : Entry) (machine : Machine) (state : State),
      entry ∈ m.after.store.history label → entry ∉ m.before.store.history label →
      app.machine label.machine = .ok machine → state ∈ machine.states →
      state.isTerminal = true →
      entry.left = some state.name → entry.forced = true ∨ entry.entered = none

variable {app : App} {past : List Happening} {before after s : System}
  {happening : Happening}
variable {client : Client} {label : Label} {moments : List Moment} {call : Call}
  {d : Desk}

/-! ## Moves -/

/-- A desk at a state has a last entry, which has entered the state. -/
theorem Desk.At.current {m : Machine} {state : State} {row : Record}
    (hat : d.At app m state row) :
    ∃ last, d.current? = some last ∧ last.entered = some state.name :=
  Option.bind_eq_some_iff.1 hat.here

/-- A deed stages no unforced move, or one that its state has earned. -/
theorem Desk.Deed.earned {creation patch : Option Value} {entry : Entry}
    {source target : String} (hdeed : d.Deed app creation patch)
    (hentry : entry ∈ d.added) (hforced : entry.forced = false)
    (hleft : entry.left = some source) (hentered : entry.entered = some target) :
    ∃ row last state, d.Live row ∧ d.current? = some last ∧ last.entered = some source ∧
      d.added = [entry] ∧ state.name = source ∧
      Earned app d.label row last d.heard target state := by
  have hstaged : ∀ {move : Move}, d.Adds move →
      d.added = [entry] ∧ entry.toMove = move := by
    rintro move ⟨staged, hadded, hmove, -⟩
    rw [hadded] at hentry
    obtain rfl := List.mem_singleton.1 hentry
    exact ⟨hadded, hmove⟩
  have hnothing : d.added ≠ [] := List.ne_nil_of_mem hentry
  cases hdeed with
  | created hcreated =>
      obtain ⟨m, first, -, -, hadds⟩ := hcreated.added
      cases hleft.symm.trans (congrArg Move.left (hstaged hadds).2)
  | updated hupdated => exact absurd hupdated.added hnothing
  | deleted hdeleted =>
      cases hdeleted with
      | before hrow hdeleted hsaved hadded => exact absurd hadded hnothing
      | now hheard hlive hsaved hadds =>
          cases hentered.symm.trans (congrArg Move.entered (hstaged hadds).2)
  | demanded hdemanded =>
      cases hforced.symm.trans (congrArg Move.forced (hstaged hdemanded.added).2)
  | stepped hstep =>
      cases hstep with
      | stayed hidle hquiet hsaved hadded => exact absurd hadded hnothing
      | looked hat hsaved hadded hclosed => exact absurd hadded hnothing
      | @passed m gate row context now picked hat hsaved hsaw hopen hnext hadds =>
          obtain ⟨hadded, hmove⟩ := hstaged hadds
          obtain ⟨last, hlast, hhere⟩ := hat.current
          obtain rfl : source = gate.name := by
            simpa [hmove, Move.transition] using hleft.symm
          obtain rfl : target = picked := by
            simpa [hmove, Move.transition] using hentered.symm
          obtain ⟨hgathered, hnow⟩ := hsaw
          rw [hlast] at hgathered
          exact ⟨row, last, .gate gate, hat.live, hlast, hhere, hadded, rfl,
            .passed hat.machine hat.member hgathered hnow hopen hnext⟩
      | @accepted m action row last picked hat hcurrent hsaved hheard hnext hadds =>
          obtain ⟨hadded, hmove⟩ := hstaged hadds
          obtain ⟨other, hother, hhere⟩ := hat.current
          obtain rfl : last = other := Option.some.inj (hcurrent.symm.trans hother)
          obtain rfl : source = action.name := by
            simpa [hmove, Move.transition] using hleft.symm
          obtain rfl : target = picked := by
            simpa [hmove, Move.transition] using hentered.symm
          exact ⟨row, last, .action action, hat.live, hcurrent, hhere, hadded, rfl,
            .accepted hat.machine hat.member hheard hnext⟩

/-- **Unforced moves are earned.** -/
theorem Chronicle.movesEarned (happ : app.Built)
    (chronicle : Chronicle app moments past s) :
    MovesEarned app moments := by
  intro m hm label entry source target hafter hbefore hforced hleft hentered
  obtain ⟨hfaithful, hstep⟩ := chronicle.at_moment happ hm
  have heffect := hfaithful.effect hstep
  obtain ⟨mPast, mBefore, happening, mAfter⟩ := m
  cases heffect with
  | none _ hsame => exact absurd ((hsame label).2 ▸ hafter) hbefore
  | @commit client call d _ _ hcommitted =>
      by_cases hlabel : label = d.label
      · subst hlabel
        have hshown := hcommitted.shown
        have hgrown :
            mAfter.store.history d.label = mBefore.store.history d.label ++ d.added := by
          rw [hcommitted.entries, Desk.pastAfter, hshown.past]
        have hstaged : entry ∈ d.added :=
          (List.mem_append.1 (hgrown ▸ hafter)).resolve_left hbefore
        obtain ⟨row, last, state, hlive, hlast, hhere, hadded, hname, hearned⟩ :=
          hcommitted.deed.onDesk.earned hstaged hforced hleft hentered
        refine ⟨client, row, last, state, by simp [Happening.isCommitOf],
          hshown.holds_iff.2 rfl, hshown.row.trans hlive.1, hlive.2, ?_, hhere,
          hadded ▸ hgrown, hname, hcommitted.heard ▸ hearned⟩
        rw [hshown.past]
        exact hlast
      · exact absurd ((hcommitted.other label hlabel).2 ▸ hafter) hbefore

/-! ## Deliveries -/

/-- The webhook of the action that the label is in has accepted it, and the route of the
action leads somewhere. -/
structure Desk.Routed (app : App) (d : Desk) (m : Machine)
    (action : Action) (row : Record) (entry : Entry) (target : String) : Prop where
  here : d.At app m (.action action) row
  current : d.current? = some entry
  heard : ⟨.deliver (action.delivery d.label row.metadata entry), .success⟩ ∈ d.heard
  next : action.route.next (Context.mk d.label row.metadata [] (some entry)).lookup =
    .ok target

variable {m : Machine} {action : Action} {row : Record} {entry : Entry} {target : String}

/-- Whether a label was accepted and routed depends on what is committed for it, and on
what was heard. -/
theorem Desk.Routed.congr {other : Desk} (h : d.Routed app m action row entry target)
    (hlabel : other.label = d.label) (hrow : other.row = d.row)
    (hpast : other.past = d.past) (hheard : ∀ known ∈ d.heard, known ∈ other.heard) :
    other.Routed app m action row entry target where
  here :=
    { machine := hlabel ▸ h.here.machine
      member := h.here.member
      live := ⟨hrow.trans h.here.live.1, h.here.live.2⟩
      here := by rw [Desk.state?, Desk.current?, hpast]; exact h.here.here }
  current := by rw [Desk.current?, hpast]; exact h.current
  heard := hlabel ▸ hheard _ h.heard
  next := hlabel ▸ h.next

/-- A step has no reason to fail on a label that was accepted and routed. -/
theorem Desk.Routed.not_failure (happ : app.Built)
    (h : d.Routed app m action row entry target)
    {error : EngineError} : ¬ StepFailure app d error := by
  have hgate :
      ∀ {m' : Machine} {gate : Gate} {row' : Record}, ¬ d.At app m' (.gate gate) row' :=
    fun hat => State.noConfusion (h.here.unique happ hat)
  intro hfailure
  cases hfailure with
  | unborn hrow => cases hrow.symm.trans h.here.live.1
  | deleted hrow hdeleted =>
      cases hrow.symm.trans h.here.live.1
      cases hdeleted.symm.trans h.here.live.2
  | unreceived hat hheard => exact List.not_mem_nil (hheard ▸ h.heard)
  | stranded hat hcurrent hopen hnext =>
      cases h.here.unique happ hat
      cases hat.live.1.symm.trans h.here.live.1
      cases hcurrent.symm.trans h.current
      cases hnext.symm.trans h.next
  | undeclared hat => exact hgate hat
  | unanswered hat => exact hgate hat
  | unevaluated hat => exact hgate hat
  | unrouted hat => exact hgate hat
  | lost hmachine hlive hstate hunknown =>
      cases hmachine.symm.trans h.here.machine
      cases hstate.symm.trans h.here.here
      rw [(happ.machine hmachine).1.state?_of_mem h.here.member] at hunknown
      cases hunknown

/-- What is committed for a label that was accepted and routed is a move of it. -/
theorem Desk.Routed.leaves (happ : app.Built) (h : d.Routed app m action row entry target)
    {creation patch : Option Value} (hdeed : d.Deed app creation patch) :
    ∃ entered, d.added = [entered] ∧ ∀ earlier ∈ d.past, earlier.id < entered.id := by
  have hsilent : d.heard ≠ [] := List.ne_nil_of_mem h.heard
  have hgate :
      ∀ {m' : Machine} {gate : Gate} {row' : Record}, ¬ d.At app m' (.gate gate) row' :=
    fun hat => State.noConfusion (h.here.unique happ hat)
  cases hdeed with
  | created hcreated => cases hcreated.unborn.symm.trans h.here.live.1
  | updated hupdated => exact absurd hupdated.heard hsilent
  | deleted hdeleted =>
      cases hdeleted with
      | before hrow hdeleted =>
          cases hrow.symm.trans h.here.live.1
          cases hdeleted.symm.trans h.here.live.2
      | now hheard => exact absurd hheard hsilent
  | demanded hdemanded => exact absurd hdemanded.heard hsilent
  | stepped hstep =>
      cases hstep with
      | stayed hidle hquiet => exact absurd h.heard (hquiet _)
      | looked hat => exact absurd hat hgate
      | passed hat => exact absurd hat hgate
      | accepted hat hcurrent hsaved hheard hnext hadds =>
          obtain ⟨entered, hadded, -, hlater⟩ := hadds
          exact ⟨entered, hadded, hlater⟩

/-- A client holds a label that was accepted and routed, and has not committed that. -/
def Pledged (app : App) (past : List Happening) (s : System)
    (client : Client) (label : Label) (m : Machine) (action : Action) (row : Record)
    (entry : Entry) (target : String) : Prop :=
  ∃ call rest d, d.label = label ∧ Working app past s client call rest d ∧
    d.Routed app m action row entry target

/-- A label has moved on since it had this entry. -/
def Superseded (s : System) (label : Label) (entry : Entry) : Prop :=
  ∃ last, (s.store.history label).getLast? = some last ∧ entry.id < last.id

/-- What was heard in a transaction is known until the next one begins. -/
theorem Exchange.mem_heardAfter {heard : List Exchange} {known exchange : Exchange}
    (h : known ∈ heard) (hgoes : exchange.request ≠ .store .begin) :
    known ∈ exchange.heardAfter heard := by
  unfold Exchange.heardAfter
  split
  · exact absurd rfl hgoes
  · exact List.mem_append_left _ h
  · exact List.mem_append_left _ h
  · exact List.mem_append_left _ h
  · exact h

/-- While a client holds a lock it forgets nothing. -/
theorem Working.heard_kept {rest : Work (Except EngineError CallResult)}
    {known : Exchange} (h : Working app past before client call rest d)
    (hstep : System.Step app before happening after)
    (hknown : known ∈ d.heard) : known ∈ heardOf client (past ++ [happening]) := by
  rw [h.heard] at hknown
  by_cases hsaid : ∃ exchange, happening = .said client exchange
  · obtain ⟨exchange, rfl⟩ := hsaid
    rw [heardOf_said]
    refine Exchange.mem_heardAfter hknown fun hbegin => ?_
    have hmay := h.may hstep
    rw [hbegin] at hmay
    cases hmay
  · rwa [heardOf, exchangesOf_unsaid fun exchange heq => hsaid ⟨exchange, heq⟩]

/-- A label that has moved on does not come back. -/
theorem Faithful.superseded_step (h : Faithful app past before)
    (hstep : System.Step app before happening after)
    (hlost : Superseded before label entry) :
    Superseded after label entry := by
  obtain ⟨last, hlast, hless⟩ := hlost
  cases h.effect hstep with
  | none _ hsame => exact ⟨last, (hsame label).2 ▸ hlast, hless⟩
  | @commit _ _ d _ _ hcommitted =>
      by_cases hlabel : label = d.label
      · subst hlabel
        rw [hcommitted.shown.past] at hlast
        rw [Superseded, hcommitted.entries, Desk.pastAfter]
        rcases hcommitted.deed.onDesk.adds with hnothing | ⟨added, hadded, hlater⟩
        · exact ⟨last, by rw [hnothing, List.append_nil, hlast], hless⟩
        · refine ⟨added, by rw [hadded]; exact List.getLast?_concat, ?_⟩
          exact Int.lt_trans hless (hlater last (List.mem_of_getLast? hlast))
      · exact ⟨last, (hcommitted.other label hlabel).2 ▸ hlast, hless⟩

/-- **Step.**  A client that holds a label that was accepted and routed goes on holding
it, or commits the move of it, or vanishes. -/
theorem Pledged.step (happ : app.Built) (hfaithful : Faithful app past before)
    (hstep : System.Step app before happening after)
    (h : Pledged app past before client label m action row entry target) :
    Pledged app (past ++ [happening]) after client label m action row entry target ∧
        happening.isCommitOf client = false ∨
      Superseded after label entry ∨ happening = .vanished client := by
  obtain ⟨call, rest, d, rfl, hworking, hrouted⟩ := h
  have hheld : before.store.holds client d.label = true := hworking.shown.holds_iff.2 rfl
  rcases hfaithful.lock_kept hstep hheld with hkept | hcommit | ⟨answer, rfl⟩ | hvanished
  · have hcommit : happening.isCommitOf client = false := by
      refine Bool.eq_false_iff.2 fun hcommit => ?_
      exact Bool.false_ne_true ((hstep.unlocked hcommit d.label).symm.trans hkept)
    obtain ⟨hrow, hpast⟩ := hfaithful.lock_guards hstep hheld hcommit
    obtain ⟨call', rest', d', hlabel, hworking'⟩ :=
      (hfaithful.step happ hstep).working hkept
    have hshown := hworking'.shown
    refine .inl
      ⟨⟨call', rest', d', hlabel, hworking',
        hrouted.congr hlabel ?_ ?_ fun known hknown => ?_⟩, hcommit⟩
    · rw [← hshown.row, hlabel, hrow, hworking.shown.row]
    · rw [← hshown.past, hlabel, hpast, hworking.shown.past]
    · rw [hworking'.heard]
      exact hworking.heard_kept hstep hknown
  · refine .inr (.inl ?_)
    cases hfaithful.effect hstep with
    | none hsilent _ => exact absurd hcommit (by simp [hsilent client])
    | @commit other _ d' _ _ hcommitted =>
        obtain rfl : other = client := of_decide_eq_true hcommit
        have hshown := hcommitted.shown
        have hlabel : d'.label = d.label :=
          hworking.shown.holds_iff.1 (hshown.holds_iff.2 rfl)
        have hrow : d'.row = d.row := by rw [← hshown.row, hlabel, hworking.shown.row]
        have hpast :
            d'.past = d.past := by rw [← hshown.past, hlabel, hworking.shown.past]
        have hrouted' : d'.Routed app m action row entry target :=
          hrouted.congr hlabel hrow hpast fun known hknown => by
            rwa [hcommitted.heard, ← hworking.heard]
        obtain ⟨entered, hadded, hlater⟩ := hrouted'.leaves happ hcommitted.deed.onDesk
        rw [Superseded, ← hlabel, hcommitted.entries, Desk.pastAfter, hadded]
        exact ⟨entered, List.getLast?_concat,
          hlater entry (List.mem_of_getLast? hrouted'.current)⟩
  · obtain ⟨_, heq, hreason⟩ := hworking.may hstep
    cases heq
    rcases hreason with hsilent | ⟨error, hfailure⟩
    · exact absurd (hsilent ▸ hrouted.heard) List.not_mem_nil
    · exact absurd hfailure (hrouted.not_failure happ)
  · exact .inr (.inr hvanished)

/-- An accepted delivery that is routed leaves its client with a label that was accepted
and routed. -/
theorem Moment.Delivers.pledged {m' : Moment}
    (happ : app.Built) (hfaithful : Faithful app m'.past m'.before)
    (hstep : System.Step app m'.before m'.happening m'.after)
    (h : m'.Delivers app client label m action row entry .success)
    (hnext : action.route.next (Context.mk label row.metadata [] (some entry)).lookup =
      .ok target) :
    Pledged app (m'.past ++ [m'.happening]) m'.after client label m action
      row entry target ∧
      m'.happening.isCommitOf client = false := by
  have hcommit : m'.happening.isCommitOf client = false := by rw [h.said]; rfl
  have hkept : m'.after.store.holds client label = true := by
    rcases hfaithful.lock_kept hstep h.held with hkept | hends | ⟨answer, hends⟩ | hends
    · exact hkept
    · exact absurd (hcommit.symm.trans hends) (by simp)
    · cases h.said.symm.trans hends
    · cases h.said.symm.trans hends
  obtain ⟨hrow, hpast⟩ := hfaithful.lock_guards hstep h.held hcommit
  obtain ⟨call, rest, d, hlabel, hworking⟩ := (hfaithful.step happ hstep).working hkept
  subst hlabel
  have hshown := hworking.shown
  have hcurrent : d.current? = some entry := by
    rw [Desk.current?, ← hshown.past, hpast]
    exact h.current
  refine ⟨⟨call, rest, d, rfl, hworking, ?_, hcurrent, ?_, hnext⟩, hcommit⟩
  · refine ⟨h.known, h.member, ⟨?_, h.live⟩, ?_⟩
    · rw [← hshown.row, hrow, h.stored]
    · rw [Desk.state?, hcurrent]
      exact h.entered
  · rw [hworking.heard, h.said, heardOf_said]
    exact List.mem_append_right _ (List.mem_singleton_self _)

/-- **Run.**  After a delivery that was accepted and routed its client holds the label
until it has moved on, unless the client vanishes first. -/
theorem Chronicle.delivered (happ : app.Built) {earlier since : List Moment}
    {first : Moment} (chronicle : Chronicle app (earlier ++ first :: since) past s)
    (h : first.Delivers app client label m action row entry .success)
    (hnext : action.route.next (Context.mk label row.metadata [] (some entry)).lookup =
      .ok target) :
    (Pledged app past s client label m action row entry target ∧
        commitsOf client past = commitsOf client first.past) ∨
      Superseded s label entry ∨
      ∃ lost ∈ since, lost.happening = .vanished client ∧
        commitsOf client lost.past = commitsOf client first.past := by
  refine chronicle.onward (P := fun since past s =>
    (Pledged app past s client label m action row entry target ∧
        commitsOf client past = commitsOf client first.past) ∨
      Superseded s label entry ∨
      ∃ lost ∈ since, lost.happening = .vanished client ∧
        commitsOf client lost.past = commitsOf client first.past) ?_ ?_
  · obtain ⟨chronicleBefore, hstep, -⟩ := chronicle.upTo
    obtain ⟨hpledged, hcommit⟩ :=
      h.pledged happ (chronicleBefore.faithful happ) hstep hnext
    exact .inl ⟨hpledged, by simp [hcommit]⟩
  · intro since past before happening after chronicle hstep hbefore
    have hfaithful := chronicle.faithful happ
    rcases hbefore with ⟨hpledged, hcount⟩ | hlost | ⟨lost, hlost, hvanished⟩
    · rcases hpledged.step happ hfaithful hstep with ⟨hkept, hcommit⟩ | hlost | hvanished
      · exact .inl ⟨hkept, by simp [hcommit, hcount]⟩
      · exact .inr (.inl hlost)
      · exact .inr (.inr ⟨⟨past, before, happening, after⟩, by simp, hvanished, hcount⟩)
    · exact .inr (.inl (hfaithful.superseded_step hstep hlost))
    · exact .inr (.inr ⟨lost, List.mem_append_left _ hlost, hvanished⟩)

/-- **No entry is delivered again that was accepted and routed.** -/
theorem Chronicle.deliveredOnce (happ : app.Built)
    (chronicle : Chronicle app moments past s) :
    DeliveredOnce app moments := by
  rintro earlier first between again later rfl client label m action row entry
    target hfirst hnext
    client' m' action' row' answer hagain
  rw [← List.cons_append, ← List.append_assoc] at chronicle
  obtain ⟨chronicleBefore, hstep, -⟩ := chronicle.upTo
  have hfaithful := chronicleBefore.faithful happ
  rcases chronicleBefore.delivered happ hfirst hnext
    with ⟨hpledged, -⟩ | ⟨last, hlast, hless⟩ | hlost
  · obtain ⟨call, rest, d, rfl, hworking, hrouted⟩ := hpledged
    obtain ⟨t, ht, hlocked⟩ := Store.holds_iff.1 hagain.held
    obtain rfl : client' = client :=
      hfaithful.sound.exclusive ht hworking.shown.transaction hlocked (by simp)
    rw [hagain.said] at hstep
    obtain ⟨_, _, _, _, _, heq, hsilent, -⟩ := hworking.may hstep
    cases heq
    exact absurd (hsilent ▸ hrouted.heard) List.not_mem_nil
  · cases hlast.symm.trans hagain.current
    exact absurd hless (Int.lt_irrefl _)
  · exact hlost

/-! ## Terminal states -/

/-- A route that leads somewhere can be left. -/
theorem Route.not_terminal_of_next {route : Route} {lookup : Value.Path → Value}
    {target : String} (h : route.next lookup = .ok target) :
    route.isTerminal = false := by
  cases route with
  | stay => cases h
  | always state => rfl
  | byValue path arms => rfl

/-- A move that was earned is where the route of a state of the label's machine leads. -/
theorem Earned.route {last : Entry} {heard : List Exchange} {state : State}
    (h : Earned app label row last heard target state) :
    ∃ m lookup, app.machine label.machine = .ok m ∧ state ∈ m.states ∧
      state.route.next lookup = .ok target := by
  cases h with
  | passed hmachine hmember hgathered hnow hopen hnext =>
      exact ⟨_, _, hmachine, hmember, hnext⟩
  | accepted hmachine hmember hheard hnext => exact ⟨_, _, hmachine, hmember, hnext⟩

/-- **Terminal states rest.** -/
theorem Chronicle.terminalRests (happ : app.Built)
    (chronicle : Chronicle app moments past s) :
    TerminalRests app moments := by
  intro m hm
  have hearned := chronicle.movesEarned happ m hm
  obtain ⟨hfaithful, hstep⟩ := chronicle.at_moment happ hm
  have hworks :
      ∀ {client : Client} {d : Desk} {machine : Machine} {state : State} {row : Record},
        d.Shown m.before.store client → d.At app machine state row →
        ∃ entry, d.current? = some entry ∧
          m.WorksOn app client d.label machine state row entry := by
    intro client d machine state row hshown hat
    obtain ⟨entry, hcurrent, hentered⟩ := hat.current
    refine ⟨entry, hcurrent, hshown.holds_iff.2 rfl, hat.machine, hat.member,
      hshown.row.trans hat.live.1, hat.live.2, ?_, hentered⟩
    rw [hshown.past]
    exact hcurrent
  refine ⟨?_, ?_, ?_⟩
  · intro client delivery answer hsaid
    obtain ⟨call, v, ⟨d, machine, action, row, entry, hd, -, hat, hcurrent, hopen, rfl⟩,
        hagrees, -⟩ :=
      hfaithful.asking (hsaid ▸ hstep)
    rw [hd] at hagrees
    obtain ⟨entry', hcurrent', hon⟩ := hworks hagrees hat
    cases hcurrent.symm.trans hcurrent'
    exact ⟨d.label, machine, action, row, entry, ⟨hon, hsaid⟩, hopen⟩
  · intro client url answer hsaid
    obtain ⟨call, v, ⟨d, machine, gate, row, feed, hd, hat, hopen, hfeed, rfl⟩,
        hagrees, -⟩ :=
      hfaithful.asking (hsaid ▸ hstep)
    rw [hd] at hagrees
    obtain ⟨entry, -, hon⟩ := hworks hagrees hat
    exact ⟨d.label, machine, gate, row, entry, feed, hon, hopen, hfeed, rfl⟩
  · intro label entry machine state hafter hbefore hmachine hmember hterminal hleft
    cases hforced : entry.forced with
    | true => exact .inl rfl
    | false =>
        cases hentered : entry.entered with
        | none => exact .inr rfl
        | some target =>
            obtain ⟨_, _, _, left, -, -, -, -, -, -, -, hname, hleaves⟩ :=
              hearned label entry state.name target hafter hbefore hforced hleft hentered
            obtain ⟨machine', lookup, hmachine', hmember', hnext⟩ := hleaves.route
            cases hmachine.symm.trans hmachine'
            have hsame : left = state :=
              (happ.machine hmachine).1.state_unique hmember' hmember hname
            cases (hsame ▸ Route.not_terminal_of_next hnext).symm.trans hterminal

/-- **Moves are earned, and deliveries are made once.**  In every run, however its calls
are interleaved and whatever they are answered: unforced moves are earned in their
transactions; an entry whose delivery was accepted and routed is not delivered again;
and nothing is asked for states that labels cannot leave, which are left only by
demanded moves and by the end of a label. -/
theorem Chronicle.moves (happ : app.Built) (chronicle : Chronicle app moments past s) :
    MovesEarned app moments ∧ DeliveredOnce app moments ∧ TerminalRests app moments :=
  ⟨chronicle.movesEarned happ, chronicle.deliveredOnce happ, chronicle.terminalRests happ⟩

/-- A machine of letters: they are sent, and kept when they have been accepted. -/
def letters : Machine :=
  ⟨"letters", [.action ⟨"sent", "https://example.com", .always "kept"⟩,
    .action ⟨"kept", "https://example.com", .stay⟩], [], []⟩

theorem letters_built : letters.Built := by
  have hreached : reachedNames letters.states = ["kept", "sent"] := by
    change reachFrom letters.states ["sent"] [] = _
    rw [reachFrom_new rfl rfl]
    change reachFrom letters.states ["kept"] ["sent"] = _
    rw [reachFrom_new rfl rfl]
    change reachFrom letters.states [] _ = _
    rw [reachFrom]
  have hvalid : violations letters.states letters.feeds = [] := by
    rw [violations, unreachableStates, hreached]
    decide
  exact ⟨⟨"letters", [.action "sent" (some "https://example.com") (.always "kept"),
    .action "kept" (some "https://example.com") .stay], [], []⟩,
    Blueprint.build_eq_ok rfl rfl hvalid⟩

/-- An application of that machine alone. -/
def postroom : App := .ofMachines [letters] {} true

theorem postroom_built : postroom.Built :=
  ⟨[letters], {}, true, [], rfl, fun _ hm => List.mem_singleton.1 hm ▸ letters_built⟩

/-- A letter is delivered and moves on: the move was earned by that one delivery. -/
theorem Chronicle.moves_postroom : ∃ moments past s, postroom.Built ∧
    Chronicle postroom moments past s ∧
    (∃ m ∈ moments, ∃ entry client row last state,
      m.after.store.history ⟨"a", "letters"⟩ = m.before.store.history ⟨"a", "letters"⟩ ++
        [entry] ∧
      entry.left = some "sent" ∧ entry.entered = some "kept" ∧ entry.forced = false ∧
      m.before.store.row? ⟨"a", "letters"⟩ = some row ∧
      Earned postroom ⟨"a", "letters"⟩ row last (heardOf client m.past) "kept" state) ∧
    DeliveredOnce postroom moments ∧ TerminalRests postroom moments := by
  let client : Client := .worker 0
  let now : DateTime := ⟨0, ⟨0, 0⟩⟩
  let label : Label := ⟨"a", "letters"⟩
  let creation : Entry := ⟨.creation label "sent", 1, now⟩
  let move : Entry := ⟨.transition label "sent" "kept", 2, now⟩
  let begun : Story :=
    Story.call {} postroom client (.operation (.create label (.obj [])))
  have hempty : Chronicle postroom ({} : Story).moments ({} : Story).past
      ({} : Story).system := .empty
  have chronicle := (hempty.call client (.operation (.create label (.obj []))) rfl).drive
    (agreeable now) client now 15
  obtain ⟨hearned, honce, hrests⟩ := Chronicle.moves postroom_built chronicle
  have hmoved : ((begun.drive (agreeable now) client now 15).moments.any fun m =>
        m.before.store.history label = [creation] ∧
        m.after.store.history label = [creation, move]) =
      true := by
    decide +kernel
  obtain ⟨m, hm, hhistories⟩ := List.any_eq_true.1 hmoved
  obtain ⟨hbefore, hafter⟩ := of_decide_eq_true hhistories
  obtain ⟨client, row, last, state, -, -, hrow, -, -, -, hgrown, -, hstate⟩ :=
    hearned m hm label move "sent" "kept" (by simp [hafter])
      (by rw [hbefore]; decide) rfl rfl rfl
  exact ⟨_, _, _, postroom_built, chronicle,
    ⟨m, hm, move, client, row, last, state, hgrown, rfl, rfl,
      rfl, hrow, hstate⟩, honce, hrests⟩

end Turnstile
