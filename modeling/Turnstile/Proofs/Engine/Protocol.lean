import Turnstile.Engine.Attempt

/-!
# Protocols

A protocol is a contract between work and the world.  From what a worker knows it says
which requests the worker may make, and for every request which answers the worker has
to expect and what it knows after them.  `Work.Follows` says that work keeps to a
protocol whatever it is answered, and that it ends with a result, and with a knowledge,
that reach a goal.

The rules compose with the work: `Work.follows_bind` for work in sequence, and the
lemmas of `Attempt.Follows` for work that can fail.  So every function of the engine has
one lemma about a protocol, and the lemma of a caller cites those of what it calls.
-/

set_option autoImplicit false

namespace Turnstile

/-- A contract between work and the world; `σ` is what a worker knows. -/
structure Protocol (σ : Type) where
  /-- Whether a worker may make a request. -/
  may : σ → Request → Prop
  /-- Whether a request can be answered so, and what is known afterwards. -/
  reply : σ → (r : Request) → r.Answer → σ → Prop

variable {σ α β : Type} {p : Protocol σ}

/-- The work keeps to a protocol from what is known at its start, and whatever it is
answered it ends at a goal. -/
def Work.Follows (p : Protocol σ) : Work α → (α → σ → Prop) → σ → Prop
  | .done a, goal, known => goal a known
  | .ask r next, goal, known =>
    p.may known r ∧
      ∀ answer after, p.reply known r answer after → (next answer).Follows p goal after

namespace Work

@[simp] theorem follows_done {a : α} {goal : α → σ → Prop} {known : σ} :
    (Work.done a).Follows p goal known ↔ goal a known := Iff.rfl

@[simp] theorem follows_pure {a : α} {goal : α → σ → Prop} {known : σ} :
    (pure a : Work α).Follows p goal known ↔ goal a known := Iff.rfl

theorem follows_ask {r : Request} {next : r.Answer → Work α}
    {goal : α → σ → Prop} {known : σ} :
    (Work.ask r next).Follows p goal known ↔ p.may known r ∧
      ∀ answer after, p.reply known r answer after →
        (next answer).Follows p goal after := Iff.rfl

/-- A single request follows a protocol that allows it. -/
theorem follows_request {r : Request} {goal : r.Answer → σ → Prop} {known : σ} :
    (Work.request r).Follows p goal known ↔
      p.may known r ∧ ∀ answer after, p.reply known r answer after →
      goal answer after := Iff.rfl

/-- **Sequencing.**  Work in sequence follows a protocol when the first part does, with
what the second part needs as its goal. -/
theorem follows_bind {work : Work α} {next : α → Work β}
    {goal : β → σ → Prop} {known : σ} :
    (work >>= next).Follows p goal known ↔
      work.Follows p (fun a after => (next a).Follows p goal after) known := by
  change (work.bind next).Follows p goal known ↔ _
  induction work generalizing known with
  | done a => rfl
  | ask r rest ih => simp only [Work.bind, follows_ask, ih]

/-- **Consequence.**  A goal may be weakened. -/
theorem Follows.mono {work : Work α} {goal wider : α → σ → Prop} {known : σ}
    (h : work.Follows p goal known) (hwider : ∀ a after, goal a after → wider a after) :
    work.Follows p wider known := by
  induction work generalizing known with
  | done a => exact hwider a known h
  | ask r rest ih =>
      exact ⟨h.1, fun answer after hreply => ih answer (h.2 answer after hreply)⟩

/-- What reaches two goals reaches both at once. -/
theorem Follows.and {work : Work α} {goal other : α → σ → Prop} {known : σ}
    (h : work.Follows p goal known) (hother : work.Follows p other known) :
    work.Follows p (fun a after => goal a after ∧ other a after) known := by
  induction work generalizing known with
  | done a => exact ⟨h, hother⟩
  | ask r rest ih =>
      exact ⟨h.1,
        fun answer after hreply =>
          ih answer (h.2 answer after hreply) (hother.2 answer after hreply)⟩

end Work

/-- A world answers as a protocol says, as long as it agrees with what is known. -/
def Protocol.KeptBy {τ : Type} (p : Protocol σ) (serve : (r : Request) → τ → r.Answer × τ)
    (agrees : σ → τ → Prop) : Prop :=
  ∀ known w r, agrees known w → p.may known r →
    ∃ after, p.reply known r (serve r w).1 after ∧ agrees after (serve r w).2

/-- **Adequacy.**  Work that follows a protocol reaches its goal in a world that
keeps it. -/
theorem Work.Follows.runWith {τ : Type} {serve : (r : Request) → τ → r.Answer × τ}
    {agrees : σ → τ → Prop} {work : Work α} {goal : α → σ → Prop} {known : σ} {w : τ}
    (h : work.Follows p goal known) (hkept : p.KeptBy serve agrees)
    (hw : agrees known w) :
    ∃ after, goal (work.runWith serve w).1 after ∧
      agrees after (work.runWith serve w).2 := by
  induction work generalizing known w with
  | done a => exact ⟨known, h, hw⟩
  | ask r next ih =>
      obtain ⟨after, hreply, hafter⟩ := hkept known w r hw h.1
      exact ih _ (h.2 _ after hreply) hafter

/-- The goal that an attempt has before more of it is made: a failure ends the whole. -/
def afterward (goal : Except EngineError β → σ → Prop)
    (next : α → σ → Prop) : Except EngineError α → σ → Prop
  | .ok a, known => next a known
  | .error error, known => goal (.error error) known

/-- `Work.Follows` for work that can fail. -/
def Attempt.Follows (p : Protocol σ) (attempt : Attempt α)
    (goal : Except EngineError α → σ → Prop) (known : σ) : Prop :=
  attempt.run.Follows p goal known

namespace Attempt

variable {goal : Except EngineError α → σ → Prop} {known : σ}

@[simp] theorem follows_pure {a : α} :
    (pure a : Attempt α).Follows p goal known ↔ goal (.ok a) known := Iff.rfl

/-- Attempts in sequence. -/
theorem follows_bind {first : Attempt β} {next : β → Attempt α} :
    (first >>= next).Follows p goal known ↔
      first.Follows p (afterward goal fun b after => (next b).Follows p goal after)
        known := by
  simp only [Attempt.Follows, ExceptT.run_bind, Work.follows_bind]
  refine ⟨fun h => h.mono ?_, fun h => h.mono ?_⟩ <;>
    intro r after hr <;> cases r <;> exact hr

/-- An attempt to ask the store. -/
theorem follows_ofStore {request : StoreRequest}
    {goal : Except EngineError request.Result → σ → Prop} :
    (Attempt.ofStore request).Follows p goal known ↔
      p.may known (.store request) ∧
      ∀ answer after, p.reply known (.store request) answer after →
        goal (answer.mapError .store) after := by
  change (Work.request (.store request) >>= _).Follows p goal known ↔ _
  rw [Work.follows_bind, Work.follows_request]
  refine and_congr_right fun _ =>
    forall_congr' fun answer => forall_congr' fun after => ?_
  cases answer <;> rfl

/-- Work that cannot fail. -/
theorem follows_ofWork {work : Work α} :
    (Attempt.ofWork work).Follows p goal known ↔
      work.Follows p (fun a after => goal (.ok a) after) known := Work.follows_bind

@[simp] theorem follows_ofExcept {ε : Type} {wrap : ε → EngineError}
    {result : Except ε α} :
    (Attempt.ofExcept wrap result).Follows p goal known ↔
    goal (result.mapError wrap) known := Iff.rfl

/-- A goal may be weakened. -/
theorem Follows.mono {attempt : Attempt α} {wider : Except EngineError α → σ → Prop}
    (h : attempt.Follows p goal known)
    (hwider : ∀ r after, goal r after → wider r after) :
    attempt.Follows p wider known := Work.Follows.mono h hwider

end Attempt

end Turnstile
