import Turnstile.Engine.Notice
import Turnstile.Store.Request

/-!
# Work

Work talks to the world: it asks, waits for the answer, and goes on.  It is data, so the
same work can be done in any world, alone or between the requests of others.

* Requests to the store are made in the name of the worker, who has at most one open
  transaction.
* `Work.runWith` does the work in a world that answers every request.
* Work is composed as a monad, and the composition is lawful.
-/

set_option autoImplicit false

namespace Turnstile

open Time (DateTime)

/-- A body to be delivered to a webhook. -/
structure Delivery where
  url : String
  contentType : String
  body : String
  token : String
deriving DecidableEq, Repr

/-- What can be asked. -/
inductive Request where
  /-- Ask the store, in the name of the worker. -/
  | store (request : StoreRequest)
  /-- Deliver a body to a webhook. -/
  | deliver (delivery : Delivery)
  /-- Fetch a document. -/
  | fetch (url : String)
  /-- Tell whoever watches. -/
  | notify (notice : Notice)
  /-- Tell the log. -/
  | log (event : LogEvent)
  /-- What time is it? -/
  | now
  /-- Has somebody asked for an end? -/
  | stopRequested
  /-- Wait for the next tick of the clock; false when the ticking is over. -/
  | nextTick

/-- The kind of answer that a request gets. -/
abbrev Request.Answer : Request → Type
  | .store request => Except StoreError request.Result
  | .deliver _ => Delivered
  | .fetch _ => Except FeedError Value
  | .notify _ => Unit
  | .log _ => Unit
  | .now => DateTime
  | .stopRequested => Bool
  | .nextTick => Bool

/-- A request with its answer. -/
structure Exchange where
  request : Request
  answer : request.Answer

/-- Work that talks to the world. -/
inductive Work (α : Type) where
  /-- The work is over. -/
  | done (result : α)
  /-- Ask, and go on with the answer. -/
  | ask (request : Request) (next : request.Answer → Work α)

namespace Work

variable {α β : Type}

/-- Go on with the result of some work. -/
def bind : Work α → (α → Work β) → Work β
  | .done result, next => next result
  | .ask request rest, next => .ask request fun answer => (rest answer).bind next

instance : Monad Work where
  pure := .done
  bind := .bind

/-- Going on with what was done is going on. -/
@[simp] theorem bind_done (work : Work α) : work.bind .done = work := by
  induction work with
  | done result => rfl
  | ask request rest ih => simp only [bind]; exact congrArg _ (funext ih)

/-- Going on twice is going on once. -/
theorem bind_bind {γ : Type} (work : Work α) (next : α → Work β) (last : β → Work γ) :
    (work.bind next).bind last = work.bind fun a => (next a).bind last := by
  induction work with
  | done result => rfl
  | ask request rest ih => simp only [bind]; exact congrArg _ (funext ih)

instance : LawfulMonad Work :=
  LawfulMonad.mk' Work bind_done (fun _ _ => rfl) bind_bind

/-- Ask and be done with the answer. -/
def request (r : Request) : Work r.Answer := .ask r .done

/-- Do the work in a world that answers. -/
def runWith {σ : Type} (answer : (r : Request) → σ → r.Answer × σ) : Work α → σ → α × σ
  | .done result, world => (result, world)
  | .ask r next, world =>
    let (reply, world) := answer r world
    runWith answer (next reply) world

/-- Composed work is done one part after the other. -/
theorem runWith_bind {σ : Type}
    (answer : (r : Request) → σ → r.Answer × σ) (work : Work α)
    (next : α → Work β) (world : σ) :
    runWith answer (work.bind next) world =
      runWith answer (next (runWith answer work world).1)
        (runWith answer work world).2 := by
  induction work generalizing world with
  | done result => rfl
  | ask r rest ih => simp only [bind, runWith, ih]

end Work

end Turnstile
