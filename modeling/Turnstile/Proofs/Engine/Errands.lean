import Turnstile.Proofs.Engine.Shadows

/-!
# Errands

Calls are made one after the other, each when the one before it has ended, in a world of
`Habits`: its clock stands still, and what a webhook or a feed answers depends on the
URL and the body.  A batch visits the labels that it finds in an order of its own, so
each errand says in which order the store lists them.

* `Habits.after_kept` : what becomes of a label is what becomes of it when only the
  errands that concern it are done.
* `Rearranged.after` : errands that concern no label in common may change places, and a
  batch may visit its labels in any order; no label is affected.
-/

set_option autoImplicit false

namespace Turnstile

open Time (DateTime)

/-- How the world behaves: what time it is, and what webhooks and feeds answer. -/
structure Habits where
  now : DateTime
  /-- What the webhook of a URL answers to a body. -/
  deliver : (url body : String) → Delivered
  fetch : (url : String) → Except FeedError Value

/-- A call that is made when all calls before it have ended, and the order in which the
store lists the rows in a state meanwhile. -/
structure Errand where
  call : Call
  order : List Record → List Record
  permutes : ∀ rows, (order rows).Perm rows

namespace Errand

/-- The client that does the errands. -/
def client : Client := .worker 0

/-- An answer of the store, in which rows are listed in an order. -/
def arrange (order : List Record → List Record) : (request : StoreRequest) →
    Except StoreError request.Result → Except StoreError request.Result
  | .rowsInState _ _, answer => answer.map order
  | .begin, answer => answer
  | .lock _, answer => answer
  | .save _, answer => answer
  | .append _, answer => answer
  | .ownHistory _, answer => answer
  | .commit, answer => answer
  | .rollback, answer => answer
  | .row _, answer => answer
  | .history _, answer => answer
  | .liveNames _, answer => answer

/-- The same errand in the order of the store. -/
def plain (errand : Errand) : Errand := ⟨errand.call, id, List.Perm.refl⟩

end Errand

/-- Answer a request of the one client.  It never has to wait for a lock. -/
def Habits.answer (habits : Habits) (order : List Record → List Record) :
    (r : Request) → Store → r.Answer × Store
  | .store request, s =>
    match request.serve Errand.client habits.now s with
    | some (answer, after) => (Errand.arrange order request answer, after)
    | none => (.error (.backend "the lock is held for ever"), s)
  | .deliver delivery, s => (habits.deliver delivery.url delivery.body, s)
  | .fetch url, s => (habits.fetch url, s)
  | .notify _, s => ((), s)
  | .log _, s => ((), s)
  | .now, s => (habits.now, s)
  | .stopRequested, s => (false, s)
  | .nextTick, s => (false, s)

/-- The store after an errand. -/
def Habits.afterOne (habits : Habits) (app : App) (s : Store) (errand : Errand) : Store :=
  ((errand.call.perform app).run.runWith (habits.answer errand.order) s).2

/-- The store after errands, from the empty store. -/
def Habits.after (habits : Habits) (app : App) (errands : List Errand) : Store :=
  errands.foldl (habits.afterOne app) {}

/-- It can be decided whether a call concerns a label. -/
instance (call : Call) (label : Label) : Decidable (call.Concerns label) :=
  match call with
  | .operation op => inferInstanceAs (Decidable (op.label? = some label))
  | .batch machine _ _ => inferInstanceAs (Decidable (label.machine = machine))
  | .job due _ => inferInstanceAs (Decidable (label.machine = due.machine))

/-- The errands that concern a label, each in the order of the store. -/
def kept (label : Label) (errands : List Errand) : List Errand :=
  (errands.filter fun errand => errand.call.Concerns label).map Errand.plain

/-- Two stores hold the same row of a label, and entries that differ in their numbers
only. -/
structure Store.SameOf (label : Label) (s r : Store) : Prop where
  row : s.row? label = r.row? label
  past : (s.history label).map Entry.unnumbered = (r.history label).map Entry.unnumbered

/-- Errands are done in another order: some that concern no label in common have changed
places, and some batches visit their labels in another order. -/
inductive Rearranged : List Errand → List Errand → Prop
  | refl (errands : List Errand) : Rearranged errands errands
  | swap {first second : Errand} {rest : List Errand}
      (hapart : ∀ label, ¬ (first.call.Concerns label ∧ second.call.Concerns label)) :
      Rearranged (first :: second :: rest) (second :: first :: rest)
  | revisit {errand other : Errand} {rest : List Errand}
      (hcall : errand.call = other.call) :
      Rearranged (errand :: rest) (other :: rest)
  | cons (errand : Errand) {rest rest' : List Errand} (h : Rearranged rest rest') :
      Rearranged (errand :: rest) (errand :: rest')
  | trans {errands middle last : List Errand} (h : Rearranged errands middle)
      (h' : Rearranged middle last) :
      Rearranged errands last

/-! ## Both stores -/

/-- Errands in a store are at the same point as those of a label in another: the stores
are in accord, and nobody else has a transaction. -/
structure InStep (label : Label) (opened opened' : Bool) (s r : Store) : Prop where
  accord : Accord label s r
  stands : Store.Stands label Errand.client s r opened opened'
  only : s.OnlyOf Errand.client
  only_other : r.OnlyOf Errand.client

namespace InStep

variable {label about : Label} {opened opened' : Bool} {s r : Store} {habits : Habits}
  {order : List Record → List Record}

/-- A request that the store answers at once. -/
theorem answer_store {request : StoreRequest}
    {answer : Except StoreError request.Result} {after : Store}
    (hserve : request.serve Errand.client habits.now s = some (answer, after)) :
    habits.answer order (.store request) s =
      (Errand.arrange order request answer, after) := by
  simp only [Habits.answer, hserve]

/-- To arrange nothing changes no answer. -/
theorem arrange_id (request : StoreRequest) (answer : Except StoreError request.Result) :
    Errand.arrange id request answer = answer := by
  cases request <;> first | rfl | (cases answer <;> rfl)

/-- In whatever order rows are listed, the answers remain alike. -/
theorem arrange_alike {request : StoreRequest}
    {answer answer' : Except StoreError request.Result}
    {after after' : Store} (haccord : Accord label s r)
    (horder : ∀ rows, (order rows).Perm rows)
    (hserve : request.serve Errand.client habits.now s = some (answer, after))
    (hserve' : request.serve Errand.client habits.now r = some (answer', after'))
    (halike : request.Alike label answer answer') :
    request.Alike label (Errand.arrange order request answer) answer' := by
  cases request with
  | rowsInState machine state =>
      cases hserve
      cases hserve'
      refine ⟨_, rfl, by rw [haccord.rowsInState (horder _)], fun row hrow => ?_⟩
      have hlisted := (horder _).mem_iff.1 hrow
      exact ((Store.mem_rowsInState haccord.orderly.once).1 hlisted).2.1
  | _ => exact halike

/-- **In both stores** a request about the label is answered alike. -/
theorem both {q : Request} (h : InStep label opened opened s r)
    (horder : ∀ rows, (order rows).Perm rows)
    (hwithin : q.Within label opened opened') :
    q.Alike label (habits.answer order q s).1 (habits.answer id q r).1 ∧
      InStep label opened' opened' (habits.answer order q s).2
        (habits.answer id q r).2 := by
  cases hwithin with
  | @store request _ _ hwithin =>
      obtain ⟨answer, after, hserve⟩ := h.only.serve habits.now request
      obtain ⟨answer', after', hserve', halike, haccord, hstands⟩ :=
        h.accord.serve_both h.stands hwithin
          (fun htaken => by simp [h.only_other.isTaken] at htaken) hserve
      rw [answer_store hserve, answer_store hserve', arrange_id]
      exact ⟨arrange_alike h.accord horder hserve hserve' halike, haccord, hstands,
        h.only.served (Store.served hserve), h.only_other.served (Store.served hserve')⟩
  | stopRequested => exact ⟨⟨rfl, rfl⟩, h⟩
  | _ => exact ⟨rfl, h⟩

/-- **In the first store alone** a request about another label is answered as it
should be. -/
theorem alone {q : Request} (h : InStep label opened false s r)
    (horder : ∀ rows, (order rows).Perm rows)
    (habout : about ≠ label) (hwithin : q.Within about opened opened') :
    (∃ answer', q.Alike about (habits.answer order q s).1 answer') ∧
      InStep label opened' false (habits.answer order q s).2 r := by
  cases hwithin with
  | @store request _ _ hwithin =>
      obtain ⟨answer, after, hserve⟩ := h.only.serve habits.now request
      obtain ⟨hanswer, haccord, hstands⟩ :=
        h.accord.serve_alone h.stands habout hwithin hserve
      rw [answer_store hserve]
      refine ⟨?_, haccord, hstands, h.only.served (Store.served hserve), h.only_other⟩
      cases request with
      | rowsInState machine state =>
          cases hserve
          refine ⟨_, _, rfl, rfl, fun row hrow => ?_⟩
          exact ((Store.mem_rowsInState h.accord.orderly.once).1
            ((horder _).mem_iff.1 hrow)).2.1
      | _ => exact hanswer
  | stopRequested => exact ⟨⟨false, rfl, rfl⟩, h⟩
  | _ => exact ⟨⟨_, rfl⟩, h⟩

/-- **Work and its shadow** end in step. -/
theorem runWith {α β : Type} {work : Work α} {other : Work β}
    (h : InStep label opened opened' s r) (horder : ∀ rows, (order rows).Perm rows)
    (hshadows : work.Shadows label opened opened' other) :
    InStep label false false (work.runWith (habits.answer order) s).2
      (other.runWith (habits.answer id) r).2 := by
  induction hshadows generalizing s r with
  | done => exact h
  | both hwithin _ ih =>
      obtain ⟨halike, hafter⟩ := h.both horder hwithin
      exact ih _ _ halike hafter
  | deliver halike _ ih =>
      simp only [Work.runWith, Habits.answer, halike.url, halike.body]
      exact ih _ h
  | alone habout hwithin _ ih =>
      obtain ⟨⟨answer', halike⟩, hafter⟩ := h.alone horder habout hwithin
      exact ih _ _ halike hafter

end InStep

/-! ## Runs of errands -/

variable {app : App} {label : Label}

/-- **Errands.**  The errands that concern a label keep in step with all errands. -/
theorem Habits.inStep (habits : Habits) (happ : app.Built)
    (errands : List Errand) {s r : Store} (h : InStep label false false s r) :
    InStep label false false (errands.foldl (habits.afterOne app) s)
      ((kept label errands).foldl (habits.afterOne app) r) := by
  induction errands generalizing s r with
  | nil => exact h
  | cons errand rest ih =>
      by_cases hconcerns : errand.call.Concerns label
      · rw [kept, List.filter_cons_of_pos (by simpa using hconcerns)]
        exact ih (h.runWith errand.permutes (Call.shadows happ hconcerns))
      · rw [kept, List.filter_cons_of_neg (by simpa using hconcerns)]
        exact ih (h.runWith errand.permutes (Call.shadows_nothing happ hconcerns))

/-- The empty stores are in step. -/
theorem InStep.empty (label : Label) : InStep label false false {} {} where
  accord := .empty label
  stands := .apart rfl rfl rfl
  only _ h := (List.not_mem_nil h).elim
  only_other _ h := (List.not_mem_nil h).elim

/-- **The errands of a label decide on it**, and leave nothing else. -/
theorem Habits.after_kept (habits : Habits) (happ : app.Built) (label : Label)
    (errands : List Errand) :
    Store.SameOf label (habits.after app errands)
      (habits.after app (kept label errands)) ∧
      ∀ other, other ≠ label → (habits.after app (kept label errands)).row? other = none ∧
        (habits.after app (kept label errands)).history other = [] := by
  have hafter := (habits.inStep happ errands (.empty label)).accord
  exact ⟨⟨hafter.row, hafter.past⟩, hafter.only⟩

/-- A rearrangement leaves each label its errands in their order. -/
theorem Rearranged.kept_eq {errands others : List Errand} (h : Rearranged errands others)
    (label : Label) :
    kept label errands = kept label others := by
  induction h with
  | refl errands => rfl
  | @swap first second rest hapart =>
      by_cases hfirst : first.call.Concerns label
      · have hsecond : ¬ second.call.Concerns label := fun h => hapart label ⟨hfirst, h⟩
        simp [kept, hfirst, hsecond]
      · by_cases hsecond : second.call.Concerns label <;> simp [kept, hfirst, hsecond]
  | @revisit errand other rest hcall =>
      by_cases hconcerns :
        other.call.Concerns label <;> simp [kept, hcall, hconcerns, Errand.plain]
  | @cons errand rest rest' h ih =>
      unfold kept at *
      by_cases hconcerns : errand.call.Concerns label <;> simp [hconcerns, ih]
  | trans _ _ ih ih' => exact ih.trans ih'

/-- **The order of errands.**  A rearrangement affects no label. -/
theorem Rearranged.after {errands others : List Errand} (h : Rearranged errands others)
    (habits : Habits) (happ : app.Built) (label : Label) :
    Store.SameOf label (habits.after app errands) (habits.after app others) := by
  obtain ⟨hfirst, -⟩ := habits.after_kept happ label errands
  obtain ⟨hsecond, -⟩ := habits.after_kept happ label others
  rw [← h.kept_eq label] at hsecond
  exact ⟨hfirst.row.trans hsecond.row.symm, hfirst.past.trans hsecond.past.symm⟩

end Turnstile
