import Turnstile.Proofs.Engine.Protocol
import Turnstile.Proofs.Engine.Run
import Turnstile.Proofs.History.Walk

/-!
# Deeds

A transaction works on one label.  From the lock on, its worker knows the committed row
and entries of the label, for nobody else can change them; with what it has staged and
what it has heard they lie on its `Desk`.

A deed is what a transaction may commit, given its desk: there are four for the
operations that write, and four more for a step on a state (`StepDeed`).  `Call.Deed`
says which of them a call may commit, and when.  Everything that ever changes in a store
is a deed, so what deeds keep is kept by every run; `Lawful.after_deed` says that they
keep the history of a label a walk through its machine.

`protocol` is the contract of a call with the world: how it uses transactions, that it
commits deeds only, and when it may deliver and fetch.  `StepFailure` says why a step
may fail instead.
-/

set_option autoImplicit false

namespace Turnstile

open Time (DateTime)

/-! ## What is committed for a label -/

/-- The committed row and entries of a label fit: there are none, or the entries are a
walk through the label's machine, and the row says whether the walk has ended. -/
inductive Lawful (app : App) (label : Label) : Option Record → List Entry → Prop
  | unborn : Lawful app label none []
  | born {m : Machine} {row : Record} {past : List Entry} {state : Option String}
      (hmachine : app.machine label.machine = .ok m) (hlabel : row.label = label)
      (walk : Walk m past state) (hdeleted : row.deleted = true ↔ state = none) :
      Lawful app label (some row) past

/-! ## Desks -/

/-- What the worker of a transaction knows of the label it has locked. -/
structure Desk where
  label : Label
  /-- The committed row. -/
  row : Option Record
  /-- The committed entries. -/
  past : List Entry
  /-- The row that was staged. -/
  saved : Option Record := none
  /-- The entries that were staged. -/
  added : List Entry := []
  /-- What was heard outside the store. -/
  heard : List Exchange := []

namespace Desk

/-- The entry with which the label entered the state it is in. -/
def current? (d : Desk) : Option Entry := d.past.getLast?

/-- The state that the label is in. -/
def state? (d : Desk) : Option String := d.current?.bind (·.entered)

/-- The row after a commit. -/
def rowAfter (d : Desk) : Option Record := d.saved.or d.row

/-- The entries after a commit. -/
def pastAfter (d : Desk) : List Entry := d.past ++ d.added

/-- One move was staged, with a number greater than all before it. -/
def Adds (d : Desk) (move : Move) : Prop :=
  ∃ entry : Entry, d.added = [entry] ∧ entry.toMove = move ∧
    ∀ earlier ∈ d.past, earlier.id < entry.id

/-- No webhook has accepted the label. -/
def Unaccepted (d : Desk) : Prop := ∀ delivery, ⟨.deliver delivery, .success⟩ ∉ d.heard

/-- The label is live. -/
def Live (d : Desk) (row : Record) : Prop := d.row = some row ∧ row.deleted = false

/-- The label is live and in a state of its machine. -/
structure At (app : App) (d : Desk) (m : Machine) (state : State)
    (row : Record) : Prop where
  machine : app.machine d.label.machine = .ok m
  member : state ∈ m.states
  live : d.Live row
  here : d.state? = some state.name

end Desk

/-- A context to which the documents of feeds were added, each as it was heard. -/
inductive Gathered (m : Machine) (heard : List Exchange) :
    Context → List String → Context → Prop
  | nil (context : Context) : Gathered m heard context [] context
  | cons {context after : Context} {name : String} {names : List String} {feed : Feed}
      {document : Value} (hfeed : m.feed? name = some feed)
      (hheard : ⟨.fetch (feed.urlFor context.label), .ok document⟩ ∈ heard)
      (more : Gathered m heard (context.withFeed name document) names after) :
      Gathered m heard context (name :: names) after

/-- What a gate saw of a label: its metadata and current entry, the documents of the
feeds that the gate reads, and the time. -/
def Desk.Saw (d : Desk) (m : Machine) (gate : Gate) (row : Record) (context : Context)
    (now : DateTime) : Prop :=
  Gathered m d.heard ⟨d.label, row.metadata, [], d.current?⟩
    (Feed.referenced gate.reads) context ∧
    ⟨.now, now⟩ ∈ d.heard

/-- The row that a gate stages to mark the updates of a label as taken to it. -/
def Record.marked (row : Record) : Option Record :=
  if row.triggersProcessed then none else some { row with triggersProcessed := true }

/-- What an action delivers for a label that entered it with an entry. -/
def Action.delivery (action : Action) (label : Label) (metadata : Value)
    (entry : Entry) : Delivery :=
  ⟨action.webhook, Webhook.contentType, Webhook.payload label.name metadata,
    Webhook.token label entry.id⟩

/-! ## Deeds of a step -/

/-- What a step on a state may commit, and what becomes of the label by it. -/
inductive StepDeed (app : App) (d : Desk) : State → Outcome → Prop
  /-- Nothing was done: the label is elsewhere, or the state is an action whose webhook
  has not accepted it. -/
  | stayed {state : State}
      (hidle : d.state? ≠ some state.name ∨ ∃ action, state = .action action)
      (hquiet : d.Unaccepted) (hsaved : d.saved = none) (hadded : d.added = []) :
      StepDeed app d state .stayed
  /-- A gate was looked at, and it is terminal or its exit condition was false. -/
  | looked {m : Machine} {gate : Gate} {row : Record} (hat : d.At app m (.gate gate) row)
      (hsaved : d.saved = row.marked) (hadded : d.added = [])
      (hclosed : gate.route.isTerminal = true ∨
        ∃ context now, d.Saw m gate row context now ∧
        gate.exit.run context.lookup (.aware now) = .ok false) : StepDeed app d
        (.gate gate) .stayed
  /-- The exit condition of a gate was true. -/
  | passed {m : Machine} {gate : Gate} {row : Record} {context : Context} {now : DateTime}
      {target : String} (hat : d.At app m (.gate gate) row)
      (hsaved : d.saved = row.marked)
      (hsaw : d.Saw m gate row context now)
      (hopen : gate.exit.run context.lookup (.aware now) = .ok true)
      (hnext : gate.route.next context.lookup = .ok target)
      (hadded : d.Adds (.transition d.label gate.name target)) :
      StepDeed app d (.gate gate) (.moved gate.name target)
  /-- The webhook of an action has accepted the label. -/
  | accepted {m : Machine} {action : Action} {row : Record} {entry : Entry}
      {target : String} (hat : d.At app m (.action action) row)
      (hcurrent : d.current? = some entry)
      (hsaved : d.saved = none)
      (hheard :
        ⟨.deliver (action.delivery d.label row.metadata entry), .success⟩ ∈ d.heard)
      (hnext :
        action.route.next (Context.mk d.label row.metadata [] (some entry)).lookup =
          .ok target)
      (hadded : d.Adds (.transition d.label action.name target)) :
      StepDeed app d (.action action) (.moved action.name target)

/-- Why a step on a state may fail; nothing of it is committed then. -/
inductive StepFailure (app : App) (d : Desk) : EngineError → Prop
  | unborn (hrow : d.row = none) : StepFailure app d (.unknownLabel d.label)
  | deleted {row : Record} (hrow : d.row = some row) (hdeleted : row.deleted = true) :
      StepFailure app d (.deletedLabel d.label)
  /-- No webhook of the machine can be delivered. -/
  | unreceived {m : Machine} {action : Action} {row : Record}
      (hat : d.At app m (.action action) row) (hheard : d.heard = [])
      (hreceiver : app.delivers m.name = false) :
      StepFailure app d (.noReceiver m.name)
  /-- The route of an action leads nowhere. -/
  | stranded {m : Machine} {action : Action} {row : Record} {entry : Entry}
      {cause : RouteError} (hat : d.At app m (.action action) row)
      (hcurrent : d.current? = some entry)
      (hopen : action.route.isTerminal = false)
      (hnext : action.route.next
        (Context.mk d.label row.metadata [] (some entry)).lookup =
        .error cause) : StepFailure app d (.route cause)
  /-- A gate reads a feed that the machine does not have. -/
  | undeclared {m : Machine} {gate : Gate} {row : Record} {name : String}
      (hat : d.At app m (.gate gate) row) (hname : name ∈ Feed.referenced gate.reads)
      (hfeed : m.feed? name = none) : StepFailure app d (.feed (.undeclared name))
  /-- A feed was not answered. -/
  | unanswered {m : Machine} {gate : Gate} {row : Record} {url : String}
      {cause : FeedError} (hat : d.At app m (.gate gate) row)
      (hheard : ⟨.fetch url, .error cause⟩ ∈ d.heard) :
      StepFailure app d (.feed cause)
  /-- The exit condition of a gate has no value. -/
  | unevaluated {m : Machine} {gate : Gate} {row : Record} {context : Context}
      {now : DateTime} {cause : Condition.Failure} (hat : d.At app m (.gate gate) row)
      (hsaw : d.Saw m gate row context now)
      (hrun : gate.exit.run context.lookup (.aware now) = .error cause) :
      StepFailure app d (.evaluation gate.name cause)
  /-- The route of a gate leads nowhere. -/
  | unrouted {m : Machine} {gate : Gate} {row : Record} {context : Context}
      {now : DateTime} {cause : RouteError} (hat : d.At app m (.gate gate) row)
      (hopen : gate.route.isTerminal = false) (hsaw : d.Saw m gate row context now)
      (hnext : gate.route.next context.lookup = .error cause) :
        StepFailure app d (.route cause)
  /-- The label is in a state that its machine does not have. -/
  | lost {m : Machine} {row : Record} {state : String}
      (hmachine : app.machine d.label.machine = .ok m)
      (hlive : d.Live row) (hstate : d.state? = some state)
      (hunknown : m.state? state = none) :
      StepFailure app d (.unknownState m.name state)

/-! ## Deeds of operations -/

namespace Desk

/-- A new label was staged, in the first state of its machine. -/
structure Created (app : App) (d : Desk) (metadata : Value) : Prop where
  unborn : d.row = none
  saved : d.saved = some ⟨d.label, metadata, false, true⟩
  added : ∃ m first, app.machine d.label.machine = .ok m ∧ m.initial? = some first ∧
    d.Adds (.creation d.label first.name)

/-- The row of a label after an update. -/
def updated (d : Desk) (m : Machine) (row : Record) (patch : Value) : Record :=
  { row with
    metadata := row.metadata.merge patch
    triggersProcessed := row.triggersProcessed &&
      (triggeredGate? m ⟨d.past⟩ row.metadata patch (row.metadata.merge patch)).isNone }

/-- An update of a live label was staged. -/
structure Updated (app : App) (d : Desk) (patch : Value) : Prop where
  heard : d.heard = []
  added : d.added = []
  saved : ∃ m row, app.machine d.label.machine = .ok m ∧ d.Live row ∧
    d.saved = some (d.updated m row patch)

/-- The end of a label was staged, or the label had ended before. -/
inductive Deleted (d : Desk) : Prop
  | before {row : Record} (hrow : d.row = some row) (hdeleted : row.deleted = true)
      (hsaved : d.saved = none) (hadded : d.added = [])
  | now {row : Record} (hheard : d.heard = []) (hlive : d.Live row)
      (hsaved : d.saved = some { row with deleted := true, metadata := .obj [] })
      (hadded : d.Adds (.deletion d.label d.state?))

/-- A demanded move of a live label was staged. -/
structure Demanded (app : App) (d : Desk) (state : String) : Prop where
  heard : d.heard = []
  saved : d.saved = none
  live : ∃ row, d.Live row
  known : ∃ m, app.machine d.label.machine = .ok m ∧ (m.state? state).isSome
  added : d.Adds (.demanded d.label d.state? state)

end Desk

/-- The label that an operation is about. -/
def Operation.label? : Operation → Option Label
  | .create label _ => some label
  | .update label _ => some label
  | .delete label => some label
  | .force label _ => some label
  | .metadata label => some label
  | .state label => some label
  | .history label => some label
  | .drain label => some label
  | .list _ => none

/-- Whether a call may work on a label. -/
def Call.Concerns : Call → Label → Prop
  | .operation op, label => op.label? = some label
  | .batch machine _ _, label => label.machine = machine
  | .job due _, label => label.machine = due.machine

/-- What a call may commit after so many commits.  An operation that writes does so
first; all else are steps. -/
def Call.Deed (app : App) : Call → Nat → Desk → Prop
  | .operation (.create label metadata), 0, d => d.label = label ∧ d.Created app metadata
  | .operation (.update label patch), 0, d => d.label = label ∧ d.Updated app patch
  | .operation (.delete label), 0, d => d.label = label ∧ d.Deleted
  | .operation (.force label state), 0, d => d.label = label ∧ d.Demanded app state
  | call, _, d => call.Concerns d.label ∧ ∃ state outcome, StepDeed app d state outcome

/-! ## The contract -/

/-- Where a worker stands. -/
inductive Stance where
  /-- No transaction is open. -/
  | idle
  /-- A transaction is open and has locked nothing. -/
  | begun
  /-- A transaction is open and has locked a label. -/
  | holding (desk : Desk)

/-- What the worker of a call knows. -/
structure View where
  /-- How many transactions the call has committed. -/
  commits : Nat
  stance : Stance

namespace View

/-- The worker holds the lock of a label. -/
def Holds (v : View) (label : Label) : Prop :=
  ∃ d, v.stance = .holding d ∧ d.label = label

/-- What is known after something was heard outside the store. -/
def hear (v : View) (exchange : Exchange) : View :=
  match v.stance with
  | .holding d => { v with stance := .holding { d with heard := d.heard ++ [exchange] } }
  | _ => v

/-- Which requests the worker of a call may make. -/
def May (app : App) (call : Call) (v : View) : Request → Prop
  | .store .begin => v.stance = .idle
  | .store (.lock label) => v.stance = .begun ∨ v.Holds label
  | .store (.save row) => v.Holds row.label
  | .store (.append move) => v.Holds move.label
  | .store (.ownHistory label) => v.Holds label
  | .store .commit => ∃ d, v.stance = .holding d ∧ call.Deed app v.commits d
  | .store .rollback =>
      ∃ d, v.stance = .holding d ∧ (d.heard = [] ∨ ∃ error, StepFailure app d error)
  | .deliver delivery => ∃ d m action row entry, v.stance = .holding d ∧ d.heard = [] ∧
      d.At app m (.action action) row ∧ d.current? = some entry ∧
      action.route.isTerminal = false ∧
      delivery = action.delivery d.label row.metadata entry
  | .fetch url =>
      ∃ d m gate row feed, v.stance = .holding d ∧ d.At app m (.gate gate) row ∧
        gate.route.isTerminal = false ∧ feed ∈ m.feeds ∧ url = feed.urlFor d.label
  | .now => ∃ d, v.stance = .holding d
  | _ => True

/-- Which answers a worker has to expect, and what it knows after them. -/
def Reply (app : App) (v : View) : (r : Request) → r.Answer → View → Prop
  | .store .begin, answer, after => answer = .ok () ∧ after = { v with stance := .begun }
  | .store (.lock label), answer, after =>
      (v.stance = .begun ∧ ∃ row past, Lawful app label row past ∧ answer = .ok row ∧
        after = { v with stance := .holding { label, row, past } }) ∨
      ∃ d, v.stance = .holding d ∧ answer = .ok d.rowAfter ∧ after = v
  | .store (.save row), answer, after => ∃ d, v.stance = .holding d ∧ answer = .ok () ∧
      after = { v with stance := .holding { d with saved := some row } }
  | .store (.append move), answer, after => ∃ d entry, v.stance = .holding d ∧
      entry.toMove = move ∧ (∀ earlier ∈ d.pastAfter, earlier.id < entry.id) ∧
      answer = .ok entry ∧
      after = { v with stance := .holding { d with added := d.added ++ [entry] } }
  | .store (.ownHistory _), answer, after => ∃ d, v.stance = .holding d ∧
      answer = .ok d.pastAfter ∧ after = v
  | .store .commit, answer, after => answer = .ok () ∧ after = ⟨v.commits + 1, .idle⟩
  | .store .rollback, answer, after =>
      answer = .ok () ∧ after = { v with stance := .idle }
  | .store (.row _), answer, after => (∃ found, answer = .ok found) ∧ after = v
  | .store (.history _), answer, after => (∃ found, answer = .ok found) ∧ after = v
  | .store (.rowsInState _ _), answer, after => (∃ found, answer = .ok found) ∧ after = v
  | .store (.liveNames _), answer, after => (∃ found, answer = .ok found) ∧ after = v
  | .deliver delivery, answer, after => after = v.hear ⟨.deliver delivery, answer⟩
  | .fetch url, answer, after => after = v.hear ⟨.fetch url, answer⟩
  | .now, answer, after => after = v.hear ⟨.now, answer⟩
  | _, _, after => after = v

end View

/-- The contract of a call with the world. -/
def protocol (app : App) (call : Call) : Protocol View where
  may := View.May app call
  reply := View.Reply app

/-! ## Deeds keep histories lawful -/

variable {app : App} {d : Desk} {label : Label} {row : Option Record} {past : List Entry}

/-- In a built machine a label is in one state only. -/
theorem Desk.At.unique (happ : app.Built) {m m' : Machine} {state state' : State}
    {row row' : Record} (hat : d.At app m state row) (hat' : d.At app m' state' row') :
    state = state' := by
  obtain rfl : m = m' := by simpa using hat.machine.symm.trans hat'.machine
  have hname : state.name = state'.name := Option.some.inj (hat.here.symm.trans hat'.here)
  exact (happ.machine hat.machine).1.state_unique hat.member hat'.member hname

/-- Without a row there are no entries. -/
theorem Lawful.past_eq_nil (h : Lawful app label none past) : past = [] := by
  cases h
  rfl

/-- Behind a row there is a walk. -/
theorem Lawful.of_row {row : Record} (h : Lawful app label (some row) past) :
    ∃ m state, app.machine label.machine = .ok m ∧ row.label = label ∧ Walk m past state ∧
      (row.deleted = true ↔ state = none) := by
  cases h with
  | born hmachine hlabel walk hdeleted => exact ⟨_, _, hmachine, hlabel, walk, hdeleted⟩

/-- The entries of a label stand in order. -/
theorem Lawful.ofEntries (h : Lawful app label row past) :
    History.ofEntries past = ⟨past⟩ := by
  cases h with
  | unborn => simp [History.ofEntries]
  | born _ _ walk => exact walk.ofEntries

/-- A desk whose label is live holds a walk that has not ended. -/
theorem Lawful.of_live {row : Record} (h : Lawful app d.label d.row d.past)
    (hlive : d.Live row) :
    ∃ m state, app.machine d.label.machine = .ok m ∧ row.label = d.label ∧
      Walk m d.past (some state) ∧ d.state? = some state := by
  obtain ⟨hrow, halive⟩ := hlive
  obtain ⟨m, state, hmachine, hlabel, walk, hdeleted⟩ := (hrow ▸ h).of_row
  cases state with
  | none => rw [hdeleted.2 rfl] at halive; cases halive
  | some state => exact ⟨m, state, hmachine, hlabel, walk, walk.last⟩

/-- A live label's history goes on with a staged move that leaves its state. -/
theorem Lawful.after_move {m : Machine} {row after : Record} {move : Move}
    (h : Lawful app d.label d.row d.past) (hlive : d.Live row)
    (hmachine : app.machine d.label.machine = .ok m) (hadds : d.Adds move)
    (hrow : d.rowAfter = some after) (hlabel : after.label = d.label)
    (hdeleted : after.deleted = true ↔ move.entered = none) (hleft : move.left = d.state?)
    (hstate : ∀ target, move.entered = some target → (m.state? target).isSome)
    (hedge : move.forced = false → ∀ source target, d.state? = some source →
      move.entered = some target → m.hasEdge source target = true) :
    Lawful app d.label d.rowAfter d.pastAfter := by
  obtain ⟨m', state, hmachine', -, walk, hhere⟩ := h.of_live hlive
  obtain rfl : m = m' := by simpa using hmachine.symm.trans hmachine'
  obtain ⟨entry, hadded, rfl, hlater⟩ := hadds
  rw [hrow, Desk.pastAfter, hadded]
  exact .born hmachine hlabel
    (walk.move hlater (hleft.trans hhere) hstate fun hforced target =>
      hedge hforced state target hhere)
    hdeleted

/-- A label's history stays lawful when no entry is added and the row stays of its label
and as live as it was. -/
theorem Lawful.after_row {row after : Record} (h : Lawful app d.label d.row d.past)
    (hlive : d.Live row) (hadded : d.added = []) (hrow : d.rowAfter = some after)
    (hlabel : after.label = row.label) (hdeleted : after.deleted = row.deleted) :
    Lawful app d.label d.rowAfter d.pastAfter := by
  obtain ⟨m, state, hmachine, hown, walk, -⟩ := h.of_live hlive
  rw [hrow, Desk.pastAfter, hadded, List.append_nil]
  exact .born hmachine (hlabel.trans hown) walk (by simp [hdeleted, hlive.2])

/-- The row that a gate leaves differs from the one before in the mark only. -/
theorem Desk.rowAfter_marked {row : Record} (hlive : d.Live row)
    (hsaved : d.saved = row.marked) :
    d.rowAfter = some { row with triggersProcessed := true } := by
  rw [Desk.rowAfter, hsaved, hlive.1, Record.marked]
  split
  · next h => cases row; simp_all
  · rfl

/-- A step keeps the history of its label lawful. -/
theorem Lawful.after_step {state : State} {outcome : Outcome} (happ : app.Built)
    (h : Lawful app d.label d.row d.past) (hdeed : StepDeed app d state outcome) :
    Lawful app d.label d.rowAfter d.pastAfter := by
  cases hdeed with
  | stayed hidle hquiet hsaved hadded =>
      simpa [Desk.rowAfter, Desk.pastAfter, hsaved, hadded] using h
  | looked hat hsaved hadded hclosed =>
      exact h.after_row hat.live hadded (Desk.rowAfter_marked hat.live hsaved) rfl rfl
  | @passed m gate row context now target hat hsaved hsaw hopen hnext hadded =>
      obtain ⟨hedge, hstate⟩ := (happ.machine hat.machine).1.next_edge hat.member hnext
      obtain ⟨-, -, -, hlabel, -⟩ := h.of_live hat.live
      refine h.after_move hat.live hat.machine hadded
        (Desk.rowAfter_marked hat.live hsaved) hlabel
        (by simp [hat.live.2, Move.transition]) hat.here.symm ?_ ?_
      · intro other hother
        obtain rfl : target = other := Option.some.inj hother
        exact hstate
      · intro _ source other hsource hother
        obtain rfl : target = other := Option.some.inj hother
        obtain rfl : gate.name = source := Option.some.inj (hat.here.symm.trans hsource)
        exact hedge
  | @accepted m action row entry target hat hcurrent hsaved hheard hnext hadded =>
      obtain ⟨hedge, hstate⟩ := (happ.machine hat.machine).1.next_edge hat.member hnext
      obtain ⟨-, -, -, hlabel, -⟩ := h.of_live hat.live
      refine h.after_move hat.live hat.machine hadded
        (show d.rowAfter = some row by simp [Desk.rowAfter, hsaved, hat.live.1]) hlabel
        (by simp [hat.live.2, Move.transition]) hat.here.symm ?_ ?_
      · intro other hother
        obtain rfl : target = other := Option.some.inj hother
        exact hstate
      · intro _ source other hsource hother
        obtain rfl : target = other := Option.some.inj hother
        obtain rfl : action.name = source := Option.some.inj (hat.here.symm.trans hsource)
        exact hedge

/-- Creations keep a label lawful. -/
theorem Lawful.after_creation {metadata : Value} (h : Lawful app d.label d.row d.past)
    (hdeed : d.Created app metadata) : Lawful app d.label d.rowAfter d.pastAfter := by
  obtain ⟨m, first, hmachine, hfirst, entry, hadded, hmove, -⟩ := hdeed.added
  have hpast : d.past = [] := (hdeed.unborn ▸ h).past_eq_nil
  have hleft : entry.left = none := congrArg Move.left hmove
  have hentered : entry.entered = some first.name := congrArg Move.entered hmove
  rw [Desk.rowAfter, Desk.pastAfter, hdeed.saved, hpast, hadded]
  exact .born hmachine rfl (.creation hleft hfirst hentered) (by simp)

/-- Updates keep it lawful: the state stays as it is. -/
theorem Lawful.after_update {patch : Value} (h : Lawful app d.label d.row d.past)
    (hdeed : d.Updated app patch) : Lawful app d.label d.rowAfter d.pastAfter := by
  obtain ⟨m, row, -, hlive, hsaved⟩ := hdeed.saved
  have hrow : d.rowAfter = some (d.updated m row patch) := by
    rw [Desk.rowAfter, hsaved]; rfl
  exact h.after_row hlive hdeed.added hrow rfl rfl

/-- Deletions keep it lawful: the past stays as it is. -/
theorem Lawful.after_deletion (h : Lawful app d.label d.row d.past) (hdeed : d.Deleted) :
    Lawful app d.label d.rowAfter d.pastAfter := by
  cases hdeed with
  | before hrow hdeleted hsaved hadded =>
      simpa [Desk.rowAfter, Desk.pastAfter, hsaved, hadded] using h
  | @now row hheard hlive hsaved hadded =>
      obtain ⟨m, state, hmachine, hlabel, -⟩ := h.of_live hlive
      have hrow :
          d.rowAfter = some { row with deleted := true, metadata := .obj [] } := by
        rw [Desk.rowAfter, hsaved]; rfl
      refine h.after_move hlive hmachine hadded hrow hlabel
        (by simp [Move.deletion]) rfl ?_ ?_
      · intro target htarget; cases htarget
      · intro _ source target _ htarget; cases htarget

/-- Demands keep it lawful: the state is one of the machine. -/
theorem Lawful.after_demand {state : String} (h : Lawful app d.label d.row d.past)
    (hdeed : d.Demanded app state) : Lawful app d.label d.rowAfter d.pastAfter := by
  obtain ⟨row, hlive⟩ := hdeed.live
  obtain ⟨m, hmachine, hstate⟩ := hdeed.known
  obtain ⟨-, -, -, hlabel, -⟩ := h.of_live hlive
  refine h.after_move hlive hmachine hdeed.added
    (show d.rowAfter = some row by simp [Desk.rowAfter, hdeed.saved, hlive.1]) hlabel
    (by simp [hlive.2, Move.demanded]) rfl ?_ ?_
  · intro target htarget
    obtain rfl : state = target := Option.some.inj htarget
    exact hstate
  · intro hforced; cases hforced

/-- **Deeds keep histories lawful.**  Whatever a call commits, the history of the label
remains a walk through its machine, and the row says whether it has ended. -/
theorem Lawful.after_deed {call : Call} {commits : Nat} (happ : app.Built)
    (h : Lawful app d.label d.row d.past) (hdeed : call.Deed app commits d) :
    Lawful app d.label d.rowAfter d.pastAfter := by
  unfold Call.Deed at hdeed
  split at hdeed
  · exact h.after_creation hdeed.2
  · exact h.after_update hdeed.2
  · exact h.after_deletion hdeed.2
  · exact h.after_demand hdeed.2
  · obtain ⟨-, state, outcome, hstep⟩ := hdeed
    exact h.after_step happ hstep

end Turnstile
