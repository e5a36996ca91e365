import Turnstile.Engine.Operation

/-!
# Rehearsals

A rehearsal does work in a made-up world.  Its clock stands still between ticks, its
webhooks and feeds answer what they were told to, and its store can be made to refuse.
One worker acts at a time; the answers of collaborators can have effects, which are
operations done by further workers before the answer comes.

* Every webhook takes its reply from one queue; the last reply stays for ever, and an
  empty queue accepts.
* A feed that nothing was served for is not found.
* `Fault`s count the requests to the store that the rehearsed work makes, not those of
  effects.
-/

set_option autoImplicit false

namespace Turnstile.Rehearsal

open Time (DateTime)

/-- The kinds of requests to the store. -/
inductive CallKind where
  | begin
  | lock
  | save
  | append
  | ownHistory
  | commit
  | rollback
  | row
  | history
  | rowsInState
  | liveNames
deriving DecidableEq, Repr

namespace CallKind

/-- All kinds. -/
def all : List CallKind :=
  [.begin, .lock, .save, .append, .ownHistory, .commit, .rollback, .row,
    .history, .rowsInState, .liveNames]

/-- The name of a kind. -/
def name : CallKind → String
  | .begin => "begin"
  | .lock => "lock"
  | .save => "save"
  | .append => "append"
  | .ownHistory => "txn_history"
  | .commit => "commit"
  | .rollback => "rollback"
  | .row => "read_label"
  | .history => "read_history"
  | .rowsInState => "labels_in_state"
  | .liveNames => "label_names"

/-- The kind of a name. -/
def ofName? (name : String) : Option CallKind := all.find? fun kind => kind.name = name

/-- The kind of a request. -/
def ofRequest : StoreRequest → CallKind
  | .begin => .begin
  | .lock _ => .lock
  | .save _ => .save
  | .append _ => .append
  | .ownHistory _ => .ownHistory
  | .commit => .commit
  | .rollback => .rollback
  | .row _ => .row
  | .history _ => .history
  | .rowsInState _ _ => .rowsInState
  | .liveNames _ => .liveNames

/-- Whether such a request ends a transaction, be it answered or refused. -/
def endsTransaction : CallKind → Bool
  | .commit => true
  | .rollback => true
  | _ => false

end CallKind

/-- Something that happens just before the `number`-th request of a kind: effects, and a
refusal if `refuses`. -/
structure Fault where
  kind : CallKind
  number : Nat
  refuses : Bool
  effects : List Operation

/-- What a webhook replies, and what happens before it does. -/
structure Reply where
  result : Delivered
  effects : List Operation

/-- What a feed answers, and what happens before it does. -/
structure Serving where
  answer : Except FeedError Value
  effects : List Operation

/-- What can be seen from outside. -/
inductive Event where
  | notice (notice : Notice)
  | delivery (delivery : Delivery)
  | effect (result : Except EngineError OperationResult)

/-- When an end is asked for. -/
inductive Stop where
  | never
  /-- When it was asked about so many times. -/
  | afterPolls (polls : Nat)
  /-- When so many jobs have finished; `silent` if only the ticking ends. -/
  | afterJobs (jobs : Nat) (silent : Bool)
  /-- When so many webhooks have been delivered; `silent` if only the ticking ends. -/
  | afterDeliveries (deliveries : Nat) (silent : Bool)

/-- A made-up world. -/
structure World where
  store : Store := {}
  clock : DateTime
  replies : List Reply := []
  feeds : Dictionary Serving := []
  faults : List Fault := []
  stop : Stop := .never
  /-- The kinds of the requests to the store so far. -/
  calls : List CallKind := []
  polls : Nat := 0
  jobs : Nat := 0
  deliveries : Nat := 0
  ticks : Nat := 0
  /-- How many workers there have been. -/
  workers : Nat := 0
  events : List Event := []
  log : List LogEvent := []

namespace World

/-- Whether the ticking is over. -/
def isOver (w : World) : Bool :=
  match w.stop with
  | .never => false
  | .afterPolls n => n ≤ w.polls
  | .afterJobs n _ => n ≤ w.jobs
  | .afterDeliveries n _ => n ≤ w.deliveries

/-- Whether an end is asked for, within the work as well. -/
def asksForEnd (w : World) : Bool :=
  match w.stop with
  | .afterJobs _ true => false
  | .afterDeliveries _ true => false
  | _ => w.isOver

/-- See an event. -/
def see (w : World) (event : Event) : World := { w with events := w.events ++ [event] }

/-- The reply at the head of the queue, and the queue after it. -/
def nextReply : List Reply → Reply × List Reply
  | [] => (⟨.success, []⟩, [])
  | [last] => (last, [last])
  | first :: rest => (first, rest)

/-- What a URL answers. -/
def serving (w : World) (url : String) : Serving :=
  (Dictionary.find? w.feeds url).getD ⟨.error (.status url 404), []⟩

/-- The refusal of a lock that will never be free. -/
def lockRefusal : StoreError := .backend "the lock is held for ever"

/-- Let the store answer. -/
def askStore (w : World) (client : Client) (request : StoreRequest) :
    Except StoreError request.Result × World :=
  match request.serve client w.clock w.store with
  | some (answer, store) => (answer, { w with store })
  | none => (.error lockRefusal, w)

/-- The refusal of a request that a fault met. -/
def faultRefusal (kind : CallKind) : StoreError := .backend ("injected " ++ kind.name)

/-- Forget the transaction of a client whose attempt to end it was refused. -/
def afterRefusal (w : World) (client : Client) (kind : CallKind) : World :=
  if kind.endsTransaction then { w with store := w.store.rollback client } else w

/-- Let the store answer, unless a fault comes first; `happen` does effects. -/
def askFaultyStore (happen : List Operation → World → World) (w : World) (client : Client)
    (request : StoreRequest) : Except StoreError request.Result × World :=
  let kind := CallKind.ofRequest request
  let w := { w with calls := kind :: w.calls }
  let met := w.faults.filter fun fault =>
    fault.kind = kind && fault.number = w.calls.count kind
  let w := happen (met.flatMap Fault.effects) w
  if met.any Fault.refuses then (.error (faultRefusal kind), w.afterRefusal client kind)
  else w.askStore client request

/-- Go on to the next tick; the first comes at once. -/
def tick (app : App) (w : World) : World :=
  let length : Int := app.settings.cronTick * (Time.nanosPerSecond : Int)
  let clock := if w.ticks = 0 then w.clock else (w.clock.add? length).getD w.clock
  { w with ticks := w.ticks + 1, clock }

/-- Answer a request of a worker; `happen` does effects, and faults are met if
`faulty`. -/
def respond (app : App) (happen : List Operation → World → World) (faulty : Bool)
    (client : Client) : (request : Request) → World → request.Answer × World
  | .store request, w =>
    if faulty then w.askFaultyStore happen client request else w.askStore client request
  | .deliver delivery, w =>
    let w := w.see (.delivery delivery)
    let (reply, replies) := nextReply w.replies
    let w := happen reply.effects { w with replies }
    (reply.result, { w with deliveries := w.deliveries + 1 })
  | .fetch url, w =>
    let serving := w.serving url
    (serving.answer, happen serving.effects w)
  | .notify notice, w =>
    let w := w.see (.notice notice)
    match notice with
    | .jobFinish _ => ((), { w with jobs := w.jobs + 1 })
    | _ => ((), w)
  | .log event, w => ((), { w with log := w.log ++ [event] })
  | .now, w => (w.clock, w)
  | .stopRequested, w => (w.asksForEnd, { w with polls := w.polls + 1 })
  | .nextTick, w => if w.isOver then (false, w) else (true, w.tick app)

/-- The worker who comes next. -/
def nextWorker (w : World) : Client × World :=
  (.worker w.workers, { w with workers := w.workers + 1 })

/-- Do effects one after the other, each by a worker of its own.  Effects of effects are
done too, down to a depth. -/
def happen (app : App) : Nat → List Operation → World → World
  | 0, _, w => w
  | depth + 1, operations, w =>
    operations.foldl
      (fun w operation =>
        let (client, w) := w.nextWorker
        let (result, w) :=
          (operation.perform app).run.runWith
          (respond app (happen app depth) false client) w
        w.see (.effect result))
      w

/-- How deep effects of effects go. -/
def effectDepth : Nat := 64

/-- Do work in the world, by a worker who meets the faults. -/
def rehearse {α : Type} (app : App) (w : World) (work : Work α) : α × World :=
  let (client, w) := w.nextWorker
  work.runWith (respond app (happen app effectDepth) true client) w

/-- The world before a scene: what was seen and counted is forgotten. -/
def setScene (w : World) (faults : List Fault) (stop : Stop) : World :=
  { w with
    faults, stop, calls := [], polls := 0, jobs := 0, deliveries := 0, ticks :=
      0, events := [],
    log := [] }

end World

end Turnstile.Rehearsal
