import Turnstile.Agenda.Job
import Turnstile.Engine.Operation

/-!
# Runs

Many calls work on one store at the same time.  Each is made by a client of its own; its
work goes forward by one request at a time, and between any two requests every other
call may go forward, so calls are interleaved at least wherever a transaction begins or
ends.  A request to the store is answered by the store, unless it has to wait for a
lock; every other request, for the time, a delivery, a feed, or whether an end was asked
for, may be answered in any way.  A call may also vanish at any point, which drops its
transaction.

`Run` says which systems can be reached from the empty store, and what happened on
the way.
-/

set_option autoImplicit false

namespace Turnstile

open Time (DateTime Window)

/-- What can be asked of an application. -/
inductive Call where
  /-- An operation on a label, or a list of labels. -/
  | operation (operation : Operation)
  /-- A batch on the selected labels in a state. -/
  | batch (machine state : String) (selection : Selection)
  /-- A job over a window of time. -/
  | job (job : Agenda.Job) (window : Window)

/-- What a call yields. -/
inductive CallResult where
  | operation (result : OperationResult)
  | batch (summary : BatchSummary)

/-- Run a batch of an application; whether an end was asked for is asked of the world. -/
def batchNamed (app : App) (machine state : String) (selection : Selection) :
    Attempt BatchSummary := do
  let m ← Attempt.ofExcept id (app.machine machine)
  let s ← Attempt.ofExcept id (m.stateNamed state)
  runBatch app m s selection (Work.request .stopRequested)

/-- The work of a call. -/
def Call.perform (app : App) : Call → Attempt CallResult
  | .operation op => do
    let result ← op.perform app
    pure (.operation result)
  | .batch machine state selection => do
    let summary ← batchNamed app machine state selection
    pure (.batch summary)
  | .job due window => do
    let summary ← Agenda.runJob app due window (Work.request .stopRequested)
    pure (.batch summary)

/-- A call that was made. -/
structure Task where
  call : Call
  /-- What is left to do; nothing when the call has vanished. -/
  rest : Option (Work (Except EngineError CallResult))

/-- A store, and the calls that were made, by their clients. -/
structure System where
  store : Store := {}
  tasks : Client → Option Task := fun _ => none

/-- The system after a client's task has changed. -/
def System.assign (s : System) (client : Client) (task : Task) : System :=
  { s with tasks := fun c => if c = client then some task else s.tasks c }

/-- Something that happens in a system. -/
inductive Happening where
  | called (client : Client) (call : Call)
  | said (client : Client) (exchange : Exchange)
  | vanished (client : Client)

/-- Whether a request can be answered so, and the store after it. -/
def Request.Answered (client : Client) (now : DateTime) (before : Store) :
    (r : Request) → r.Answer → Store → Prop
  | .store request, answer, after =>
      request.serve client now before = some (answer, after)
  | _, _, after => after = before

/-- One thing happens. -/
inductive System.Step (app : App) : System → Happening → System → Prop
  /-- A new client makes a call. -/
  | call {s : System} (client : Client) (call : Call) (hnew : s.tasks client = none) :
      Step app s (.called client call)
        (s.assign client ⟨call, some (call.perform app).run⟩)
  /-- A client's request is answered. -/
  | say {s : System} {call : Call} {r : Request}
      {next : r.Answer → Work (Except EngineError CallResult)}
      {answer : r.Answer} {after : Store}
      (client : Client) (now : DateTime)
      (htask : s.tasks client = some ⟨call, some (.ask r next)⟩)
      (hanswer : r.Answered client now s.store answer after) :
      Step app s (.said client ⟨r, answer⟩)
        ({ s with store := after }.assign client ⟨call, some (next answer)⟩)
  /-- A client's call vanishes. -/
  | vanish {s : System} {client : Client} {call : Call}
      {rest : Work (Except EngineError CallResult)}
      (htask : s.tasks client = some ⟨call, some rest⟩) :
      Step app s (.vanished client)
        ({ s with store := s.store.rollback client }.assign client ⟨call, none⟩)

/-- A run from the empty store, with all that happened. -/
inductive Run (app : App) : List Happening → System → Prop
  | empty : Run app [] {}
  | step {past : List Happening} {before after : System} {happening : Happening}
      (run : Run app past before) (hstep : System.Step app before happening after) :
      Run app (past ++ [happening]) after

/-- Whether it is a commit of a client. -/
def Happening.isCommitOf (client : Client) : Happening → Bool
  | .said c ⟨.store .commit, _⟩ => c = client
  | _ => false

/-- What is said to one client is no commit of another. -/
theorem Happening.isCommitOf_other {client other : Client} {exchange : Exchange}
    (hother : other ≠ client) :
    (Happening.said client exchange).isCommitOf other = false := by
  unfold Happening.isCommitOf
  split
  · next heq =>
      cases heq
      exact decide_eq_false hother.symm
  · rfl

/-- The exchange, if it is one with a client. -/
def Happening.exchange? (client : Client) : Happening → Option Exchange
  | .said c exchange => if c = client then some exchange else none
  | _ => none

/-- All that was said with a client. -/
def exchangesOf (client : Client) (past : List Happening) : List Exchange :=
  past.filterMap (Happening.exchange? client)

/-- What was heard outside the store, after one more exchange: all is forgotten when a
transaction begins. -/
def Exchange.heardAfter (heard : List Exchange) : Exchange → List Exchange
  | ⟨.store .begin, _⟩ => []
  | ⟨.deliver delivery, answer⟩ => heard ++ [⟨.deliver delivery, answer⟩]
  | ⟨.fetch url, answer⟩ => heard ++ [⟨.fetch url, answer⟩]
  | ⟨.now, answer⟩ => heard ++ [⟨.now, answer⟩]
  | _ => heard

/-- What a client has heard outside the store since it last began a transaction. -/
def heardOf (client : Client) (past : List Happening) : List Exchange :=
  (exchangesOf client past).foldl Exchange.heardAfter []

/-- What a client says is added to its exchanges. -/
@[simp] theorem exchangesOf_said (client : Client) (past : List Happening)
    (exchange : Exchange) :
    exchangesOf client (past ++ [.said client exchange]) = exchangesOf client past ++
      [exchange] := by
  simp [exchangesOf, Happening.exchange?]

/-- A client has heard what it had heard and the new answer. -/
@[simp] theorem heardOf_said (client : Client) (past : List Happening)
    (exchange : Exchange) :
    heardOf client (past ++ [.said client exchange]) =
      exchange.heardAfter (heardOf client past) := by
  simp [heardOf]

/-- When nothing is said with a client, there are no more exchanges with it. -/
theorem exchangesOf_unsaid {client : Client} {happening : Happening}
    (h : ∀ exchange, happening ≠ .said client exchange) (past : List Happening) :
    exchangesOf client (past ++ [happening]) = exchangesOf client past := by
  have hnone : happening.exchange? client = none := by
    cases happening with
    | said c exchange => exact if_neg fun (hsame : c = client) => h exchange (hsame ▸ rfl)
    | _ => rfl
  simp [exchangesOf, hnone]

/-- A commit is of one client. -/
theorem Happening.isCommitOf_unique {happening : Happening} {client other : Client}
    (hcommit : happening.isCommitOf client = true)
    (hother : happening.isCommitOf other = true) :
    other = client := by
  cases happening with
  | said c exchange =>
      have hclient : ∀ {x : Client}, (Happening.said c exchange).isCommitOf x = true →
          x = c := by
        intro x hx
        by_cases hsame : x = c
        · exact hsame
        · rw [isCommitOf_other hsame] at hx
          cases hx
      rw [hclient hother, hclient hcommit]
  | _ => cases hcommit

/-- How many transactions a client has committed. -/
def commitsOf (client : Client) (past : List Happening) : Nat :=
  past.countP (Happening.isCommitOf client)

/-- Commits are counted one happening at a time. -/
@[simp] theorem commitsOf_append (client : Client) (past : List Happening)
    (happening : Happening) :
    commitsOf client (past ++ [happening]) =
      commitsOf client past + (happening.isCommitOf client).toNat := by
  cases h : happening.isCommitOf client <;> simp [commitsOf, h]

variable {app : App} {past : List Happening} {before after : System}
  {happening : Happening}

/-- A call that was made goes on or has vanished; it remains the same call. -/
theorem System.Step.task_kept (hstep : System.Step app before happening after)
    {client : Client} {call : Call}
    (h : ∃ rest, before.tasks client = some ⟨call, rest⟩) :
    ∃ rest, after.tasks client = some ⟨call, rest⟩ := by
  obtain ⟨rest, hrest⟩ := h
  cases hstep with
  | call other made hnew =>
      have hother : client ≠ other := by
        rintro rfl
        cases hrest.symm.trans hnew
      exact ⟨rest, by simpa [System.assign, hother] using hrest⟩
  | @say made r next answer store other now htask hanswer =>
      by_cases hother : client = other
      · subst hother
        cases hrest.symm.trans htask
        exact ⟨some (next answer), by simp [System.assign]⟩
      · exact ⟨rest, by simpa [System.assign, hother] using hrest⟩
  | @vanish other made work htask =>
      by_cases hother : client = other
      · subst hother
        cases hrest.symm.trans htask
        exact ⟨none, by simp [System.assign]⟩
      · exact ⟨rest, by simpa [System.assign, hother] using hrest⟩

/-- How the work of a client comes to be what it is: it was called for, or an answer was
given to it, or it was so before and nothing was said with the client. -/
theorem System.Step.work_cases (hstep : System.Step app before happening after)
    {client : Client} {call : Call} {rest : Work (Except EngineError CallResult)}
    (htask : after.tasks client = some ⟨call, some rest⟩) :
    (happening = .called client call ∧ before.tasks client = none ∧
      rest = (call.perform app).run) ∨
    (∃ r next answer, happening = .said client ⟨r, answer⟩ ∧
      before.tasks client = some ⟨call, some (.ask r next)⟩ ∧ rest = next answer) ∨
    (before.tasks client = some ⟨call, some rest⟩ ∧
      ∀ exchange, happening ≠ .said client exchange) := by
  cases hstep with
  | call other made hnew =>
      by_cases hother : client = other
      · subst hother
        obtain ⟨rfl, rfl⟩ : made = call ∧ (made.perform app).run = rest := by
          simpa [System.assign] using htask
        exact .inl ⟨rfl, hnew, rfl⟩
      · exact .inr (.inr ⟨by simpa [System.assign, hother] using htask, by simp⟩)
  | @say made r next answer store other now hwas hanswer =>
      by_cases hother : client = other
      · subst hother
        obtain ⟨rfl, rfl⟩ : made = call ∧ next answer = rest := by
          simpa [System.assign] using htask
        exact .inr (.inl ⟨r, next, answer, rfl, hwas, rfl⟩)
      · refine .inr (.inr ⟨by simpa [System.assign, hother] using htask, ?_⟩)
        rintro exchange heq
        cases heq
        exact hother rfl
  | @vanish other made work hwas =>
      by_cases hother : client = other
      · simp [System.assign, hother] at htask
      · exact .inr (.inr ⟨by simpa [System.assign, hother] using htask, by simp⟩)

/-- Every call of a run is a task of the system. -/
theorem Run.task_of_called {s : System} (run : Run app past s)
    {client : Client} {call : Call} (h : .called client call ∈ past) :
    ∃ rest, s.tasks client = some ⟨call, rest⟩ := by
  induction run with
  | empty => cases h
  | @step past before after happening run hstep ih =>
      rcases List.mem_append.1 h with hold | hnow
      · exact hstep.task_kept (ih hold)
      · obtain rfl := List.mem_singleton.1 hnow
        cases hstep with
        | call => exact ⟨_, by simp [System.assign]; rfl⟩

/-- Whoever has committed has said so. -/
theorem commitsOf_pos {client : Client} :
    0 < commitsOf client past ↔
    ∃ answer, .said client ⟨.store .commit, answer⟩ ∈ past := by
  unfold commitsOf
  rw [List.countP_pos_iff]
  constructor
  · rintro ⟨happening, hin, hcommit⟩
    unfold Happening.isCommitOf at hcommit
    split at hcommit
    · next c answer =>
        obtain rfl : c = client := of_decide_eq_true hcommit
        exact ⟨answer, hin⟩
    · cases hcommit
  · rintro ⟨answer, hin⟩
    exact ⟨_, hin, by simp [Happening.isCommitOf]⟩

end Turnstile
