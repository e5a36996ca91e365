import Turnstile.Agenda.Pool
import Turnstile.Proofs.Agenda.Tiling
import Turnstile.Proofs.Engine.Notices
import Turnstile.Rehearsal.Runner

/-!
# Pools of workers

Whatever happens in a pool, and in whatever order its workers go on:

* no more workers are at work than the settings allow (`Pool.Run.busy_le`);
* every job that a tick hands out is given to one worker, in the order of the ticks
  (`Pool.Run.given`);
* each worker gives the notices of its own job around all that it says, and has given
  both once it is done (`Pool.Run.noticed`);
* the pool never gets stuck before the runner was asked to end and all work is over
  (`Pool.goes_on`).

The runner of a rehearsal, who works on one job after the other, is one of the ways in
which things can happen in a pool (`Pool.run_of_runTicks`).
-/

set_option autoImplicit false

namespace Turnstile.Agenda

open Time (DateTime)

/-! ## What is to be shown -/

/-- All that the ticks at these instants hand out, in order. -/
def Schedule.handedOut {ι : Type} (s : Schedule ι) : List DateTime → List (DueJob ι)
  | [] => []
  | now :: later => (s.due now).1 ++ (s.due now).2.handedOut later

namespace PoolEvent

/-- The instant of a tick. -/
def tick? : PoolEvent → Option DateTime
  | .ticked now => some now
  | _ => none

/-- The exchange, if it is one with the worker of a place. -/
def exchange? (place : Nat) : PoolEvent → Option Exchange
  | .said other exchange => if other = place then some exchange else none
  | _ => none

/-- What the runner and its workers say, if the runner asks for its ticks and for the
time. -/
def exchanges : PoolEvent → List Exchange
  | .ticked now => [⟨.nextTick, true⟩, ⟨.now, now⟩]
  | .closed => [⟨.nextTick, false⟩]
  | .said _ exchange => [exchange]
  | _ => []

end PoolEvent

/-- The instants of the ticks. -/
def ticksOf (past : List PoolEvent) : List DateTime := past.filterMap PoolEvent.tick?

/-- All that was said with the worker of a place. -/
def saidAt (place : Nat) (past : List PoolEvent) : List Exchange :=
  past.filterMap (PoolEvent.exchange? place)

/-- What is so of a pool whatever has happened in it. -/
structure Pool.Kept (app : App) (schedule : Schedule Job)
    (past : List PoolEvent) (p : Pool) : Prop where
  polled : p.schedule = schedule.after ((ticksOf past).map .poll)
  given : p.workers.map (·.due) ++ p.waiting = schedule.handedOut (ticksOf past)
  limited : p.busy ≤ app.settings.cronWorkers
  closed : p.closed = true → p.waiting = []
  unhired : ∀ place, p.workers.length ≤ place → saidAt place past = []
  conversed : ∀ place worker, p.workers[place]? = some worker →
    ∃ left, (work app worker.due).Leads (saidAt place past) left ∧
      ∀ rest, worker.rest = some rest → rest = left

/-! ## What has happened -/

variable {app : App} {schedule : Schedule Job} {past : List PoolEvent}
  {p before after : Pool} {event : PoolEvent} {due : DueJob Job} {place : Nat}

@[simp] theorem ticksOf_append (past more : List PoolEvent) :
    ticksOf (past ++ more) = ticksOf past ++ ticksOf more := List.filterMap_append

@[simp] theorem saidAt_append (place : Nat) (past more : List PoolEvent) :
    saidAt place (past ++ more) = saidAt place past ++ saidAt place more :=
  List.filterMap_append

/-- What is said is said at one place. -/
theorem saidAt_said (place other : Nat) (exchange : Exchange) :
    saidAt place [.said other exchange] = if other = place then [exchange] else [] := by
  by_cases hsame : other = place <;> simp [saidAt, PoolEvent.exchange?, hsame]

/-- One more tick hands out what is due then. -/
theorem Schedule.handedOut_snoc {ι : Type} (s : Schedule ι) (ticks : List DateTime)
    (now : DateTime) :
    s.handedOut (ticks ++ [now]) =
      s.handedOut ticks ++ ((s.after (ticks.map .poll)).due now).1 := by
  induction ticks generalizing s with
  | nil => simp [handedOut, after]
  | cons first later ih =>
      have hafter : s.after ((first :: later).map .poll) =
          (s.due first).2.after (later.map .poll) := rfl
      rw [hafter, List.cons_append, handedOut, handedOut, ih, List.append_assoc]

/-! ## Workers -/

/-- Work on a job begins with something to say. -/
theorem isBusy_hired (app : App) (due : DueJob Job) :
    Worker.isBusy ⟨due, some (work app due)⟩ = true := rfl

/-- When a worker that is at work goes on, no more are at work. -/
theorem Pool.busy_set {worker : Worker} (h : p.workers[place]? = some worker)
    (hbusy : worker.isBusy = true) (other : Worker) :
    (p.workers.set place other).countP Worker.isBusy ≤ p.busy := by
  obtain ⟨hplace, rfl⟩ := List.getElem?_eq_some_iff.1 h
  have hcounted : 0 < p.workers.countP Worker.isBusy :=
    List.countP_pos_iff.2 ⟨_, List.getElem_mem hplace, hbusy⟩
  rw [List.countP_set hplace, if_pos hbusy, Pool.busy]
  split <;> omega

/-- A worker that goes on keeps its job. -/
theorem map_due_set {workers : List Worker} {worker : Worker}
    (h : workers[place]? = some worker) (rest : Option (Work Unit)) :
    (workers.set place ⟨worker.due, rest⟩).map (·.due) = workers.map (·.due) := by
  have hsame : (workers.map (·.due))[place]? = some worker.due := by
    rw [List.getElem?_map, h]; rfl
  obtain ⟨hplace, hdue⟩ := List.getElem?_eq_some_iff.1 hsame
  rw [List.map_set, ← hdue, List.set_getElem_self]

/-! ## Steps -/

/-- Before the first tick nothing has happened. -/
theorem Pool.Kept.start (app : App) (schedule : Schedule Job) :
    Pool.Kept app schedule [] { schedule } := by
  refine ⟨rfl, rfl, Nat.zero_le _, fun _ => rfl, fun _ _ => rfl, ?_⟩
  intro place worker h
  cases h

/-- A worker has gone on, and nothing else has happened. -/
theorem Pool.Kept.goOn {r : Request} {next : r.Answer → Work Unit}
    {rest : Option (Work Unit)} (h : before.Kept app schedule past)
    (hworker : before.workers[place]? = some ⟨due, some (.ask r next)⟩)
    (htick : event.tick? = none)
    (hothers : ∀ other, other ≠ place → saidAt other [event] = [])
    (hplace : ∃ left, (work app due).Leads (saidAt place (past ++ [event])) left ∧
      ∀ work, rest = some work → work = left) :
    Pool.Kept app schedule (past ++ [event])
      { before with workers := before.workers.set place ⟨due, rest⟩ } := by
  have hlength : place < before.workers.length := (List.getElem?_eq_some_iff.1 hworker).1
  have hticks : ticksOf (past ++ [event]) = ticksOf past := by simp [ticksOf, htick]
  refine ⟨hticks ▸ h.polled, ?_, ?_, h.closed, ?_, ?_⟩
  · rw [hticks, ← h.given]
    exact congrArg (· ++ _) (map_due_set hworker rest)
  · exact Nat.le_trans (Pool.busy_set hworker rfl _) h.limited
  · intro other hother
    rw [List.length_set] at hother
    rw [saidAt_append, h.unhired other hother, hothers other (by omega), List.append_nil]
  · intro other worker hfound
    by_cases hsame : other = place
    · subst hsame
      rw [List.getElem?_set_self hlength] at hfound
      cases hfound
      exact hplace
    · rw [List.getElem?_set_ne (Ne.symm hsame)] at hfound
      rw [saidAt_append, hothers other hsame, List.append_nil]
      exact h.conversed other worker hfound

/-- **One step.** -/
theorem Pool.Kept.step (h : before.Kept app schedule past)
    (hstep : Pool.Step app before event after) :
    after.Kept app schedule (past ++ [event]) := by
  -- outside conversations nothing is said
  have hsilent : (∀ other exchange, event ≠ .said other exchange) →
      ∀ other, saidAt other (past ++ [event]) = saidAt other past := by
    intro hnever other
    have hnone : event.exchange? other = none := by
      cases event with
      | said place exchange => exact absurd rfl (hnever place exchange)
      | _ => rfl
    simp [saidAt, hnone]
  cases hstep with
  | tick now hgiven hopen =>
      have hsaid := hsilent (by simp)
      have hticks : ticksOf (past ++ [.ticked now]) = ticksOf past ++ [now] := by
        rw [ticksOf_append]
        rfl
      refine ⟨?_, ?_, h.limited, ?_, ?_, ?_⟩
      · rw [hticks, List.map_append, Schedule.after, List.foldl_append, h.polled]
        rfl
      · rw [hticks, Schedule.handedOut_snoc, ← h.given, ← h.polled, hgiven,
          List.append_nil]
      · simp [hopen]
      · exact fun other hother => (hsaid other).trans (h.unhired other hother)
      · intro other worker hfound
        rw [hsaid]
        exact h.conversed other worker hfound
  | close hgiven hopen =>
      have hsaid := hsilent (by simp)
      have hticks : ticksOf (past ++ [.closed]) = ticksOf past := by
        rw [ticksOf_append]
        exact List.append_nil _
      refine ⟨hticks ▸ h.polled, hticks ▸ h.given, h.limited, fun _ => hgiven, ?_, ?_⟩
      · exact fun other hother => (hsaid other).trans (h.unhired other hother)
      · intro other worker hfound
        rw [hsaid]
        exact h.conversed other worker hfound
  | @hire due later hwaiting hfree =>
      have hsaid := hsilent (by simp)
      have hticks : ticksOf (past ++ [.hired due]) = ticksOf past := by
        rw [ticksOf_append]
        exact List.append_nil _
      refine ⟨hticks ▸ h.polled, ?_, ?_, ?_, ?_, ?_⟩
      · rw [hticks, ← h.given, hwaiting]
        simp
      · rw [Pool.busy, List.countP_append, List.countP_singleton,
          if_pos (isBusy_hired app due)]
        exact hfree
      · intro hclosed
        rw [h.closed hclosed] at hwaiting
        cases hwaiting
      · intro other hother
        rw [List.length_append] at hother
        exact (hsaid other).trans (h.unhired other (by omega))
      · intro other worker hfound
        rw [hsaid]
        rcases Nat.lt_or_ge other before.workers.length with hold | hnew
        · rw [List.getElem?_append_left hold] at hfound
          exact h.conversed other worker hfound
        · rw [List.getElem?_append_right hnew, List.getElem?_singleton] at hfound
          obtain ⟨-, hworker⟩ := Option.ite_none_right_eq_some.1 hfound
          cases hworker
          rw [h.unhired other hnew]
          exact ⟨_, .here _, fun _ hwork => (Option.some.inj hwork).symm⟩
  | @say due r next place answer hworker =>
      have hothers : ∀ other, other ≠ place →
          saidAt other [.said place ⟨r, answer⟩] = [] := by
        intro other hother
        rw [saidAt_said, if_neg (Ne.symm hother)]
      obtain ⟨left, hleads, hleft⟩ := h.conversed place _ hworker
      obtain rfl := hleft _ rfl
      refine h.goOn hworker rfl hothers
        ⟨next answer, ?_, fun _ hwork => (Option.some.inj hwork).symm⟩
      rw [saidAt_append, saidAt_said, if_pos rfl]
      exact hleads.trans (.said (.here _))
  | @vanish due r next place hworker =>
      obtain ⟨left, hleads, -⟩ := h.conversed place _ hworker
      refine h.goOn hworker rfl (fun _ _ => rfl) ⟨left, ?_, by simp⟩
      rw [hsilent (by simp)]
      exact hleads

/-! ## Runs -/

/-- Every run keeps what one step keeps. -/
theorem Pool.Run.kept (run : Pool.Run app schedule past p) :
    p.Kept app schedule past := by
  induction run with
  | start => exact .start app schedule
  | step _ hstep ih => exact ih.step hstep

/-- **Limits.**  No more workers are at work than the settings allow. -/
theorem Pool.Run.busy_le (run : Pool.Run app schedule past p) :
    p.busy ≤ app.settings.cronWorkers := run.kept.limited

/-- **Jobs are given out once and in order.**  The schedule is polled at the ticks, and
what it hands out is given to one worker after the other, as far as it does not wait;
and nothing waits once the runner was asked to end. -/
theorem Pool.Run.given (run : Pool.Run app schedule past p) :
    p.schedule = schedule.after ((ticksOf past).map .poll) ∧
    p.workers.map (·.due) ++ p.waiting = schedule.handedOut (ticksOf past) ∧
    (p.closed = true → p.waiting = []) :=
  ⟨run.kept.polled, run.kept.given, run.kept.closed⟩

/-- **Notices of workers.**  However the others go on, what was said with a worker so
far begins a conversation with the notices of its job around it, and is one when the
worker is done. -/
theorem Pool.Run.noticed {worker : Worker} (run : Pool.Run app schedule past p)
    (hworker : p.workers[place]? = some worker) :
    (∃ more, JobNoticed worker.due.job.text (saidAt place past ++ more)) ∧
      (worker.rest = some (.done ()) →
        JobNoticed worker.due.job.text (saidAt place past)) := by
  obtain ⟨left, hleads, hleft⟩ := run.kept.conversed place worker hworker
  obtain ⟨hbegun, hover⟩ := (says_work app worker.due).observes _ _ hleads
  exact ⟨hbegun, fun hdone => hover () (hleft _ hdone).symm⟩

/-- **Every start has its finish.**  When nobody is at work any more, each worker that
has not vanished has given both notices of its job. -/
theorem Pool.Run.noticed_all {worker : Worker} (run : Pool.Run app schedule past p)
    (hidle : p.busy = 0) (hworker : p.workers[place]? = some worker)
    (hstays : worker.rest ≠ none) :
    JobNoticed worker.due.job.text (saidAt place past) := by
  refine (run.noticed hworker).2 ?_
  have hrests : worker.isBusy = false :=
    Bool.eq_false_iff.2
      (List.countP_eq_zero.1 hidle worker (List.mem_of_getElem? hworker))
  cases hrest : worker.rest with
  | none => exact absurd hrest hstays
  | some work =>
      cases work with
      | done => rfl
      | ask r next => simp [Worker.isBusy, hrest] at hrests

/-- **Pools do not get stuck.**  As long as the runner was not asked to end, or
something is left to do, something can happen. -/
theorem Pool.goes_on (p : Pool) (hworkers : 0 < app.settings.cronWorkers) :
    (p.closed = true ∧ p.waiting = [] ∧ p.busy = 0) ∨
    ∃ event after, Pool.Step app p event after := by
  by_cases hidle : p.busy = 0
  · cases hwaiting : p.waiting with
    | cons due later => exact .inr ⟨_, _, .hire hwaiting (hidle ▸ hworkers)⟩
    | nil =>
        cases hclosed : p.closed with
        | false => exact .inr ⟨_, _, .close hwaiting hclosed⟩
        | true => exact .inl ⟨rfl, rfl, hidle⟩
  · -- a worker that is at work can be answered
    obtain ⟨⟨due, rest⟩, hin, hbusy⟩ := List.countP_pos_iff.1 (Nat.pos_of_ne_zero hidle)
    obtain ⟨place, hworker⟩ := List.getElem?_of_mem hin
    unfold Worker.isBusy at hbusy
    split at hbusy
    next r next hrest =>
      obtain ⟨answer⟩ := r.answerable
      obtain rfl : rest = some (.ask r next) := hrest
      exact .inr ⟨_, _, .say place answer hworker⟩
    next => cases hbusy

/-! ## Runners of a rehearsal -/

/-- All jobs were given out, and nobody is at work. -/
structure Pool.Idle (p : Pool) : Prop where
  given : p.waiting = []
  rested : p.busy = 0

/-- A worker can be brought to the end of its work before anything else happens. -/
theorem Pool.Run.through {work : Work Unit} {talk : List Exchange}
    (run : Pool.Run app schedule past p)
    (hworker : p.workers[place]? = some ⟨due, some work⟩)
    (hleads : work.Leads talk (.done ())) :
    ∃ more, more.flatMap PoolEvent.exchanges = talk ∧ Pool.Run app schedule (past ++ more)
      { p with workers := p.workers.set place ⟨due, some (.done ())⟩ } := by
  induction talk generalizing work past p with
  | nil =>
      obtain rfl : Work.done () = work := Work.leads_nil.1 hleads
      obtain ⟨hplace, hsame⟩ := List.getElem?_eq_some_iff.1 hworker
      refine ⟨[], rfl, ?_⟩
      rw [← hsame, List.set_getElem_self, List.append_nil]
      exact run
  | cons exchange talk ih =>
      cases hleads with
      | @said r next answer _ _ hmore =>
          have hlength : place < p.workers.length :=
            (List.getElem?_eq_some_iff.1 hworker).1
          have hanswered := run.step (.say place answer hworker)
          obtain ⟨more, hsaid, hrun⟩ :=
            ih hanswered (List.getElem?_set_self hlength) hmore
          refine ⟨.said place ⟨r, answer⟩ :: more, ?_, ?_⟩
          · rw [List.flatMap_cons, hsaid]
            rfl
          · rw [List.set_set, List.append_assoc] at hrun
            exact hrun

/-- Jobs that wait can be worked on one after the other. -/
theorem Pool.Run.each {waiting : List (DueJob Job)} {talk : List Exchange}
    (hworkers : 0 < app.settings.cronWorkers) (run : Pool.Run app schedule past p)
    (hwaiting : p.waiting = waiting) (hidle : p.busy = 0)
    (hleads : (Rehearsal.workEach app waiting).Leads talk (.done ())) :
    ∃ more q, more.flatMap PoolEvent.exchanges = talk ∧
      Pool.Run app schedule (past ++ more) q ∧
      q.Idle ∧ q.schedule = p.schedule ∧ q.closed = p.closed := by
  induction waiting generalizing talk past p with
  | nil =>
      obtain ⟨rfl, -⟩ := Work.leads_done.1 hleads
      exact ⟨[], p, rfl, (List.append_nil past).symm ▸ run, ⟨hwaiting, hidle⟩, rfl, rfl⟩
  | cons due later ih =>
      obtain ⟨_, front, back, rfl, hfront, hback⟩ := Work.leads_bind_done hleads
      have hhired := run.step (.hire hwaiting (hidle ▸ hworkers))
      have hplace : (p.workers ++ [⟨due, some (work app due)⟩])[p.workers.length]? =
          some ⟨due, some (work app due)⟩ := List.getElem?_concat_length
      obtain ⟨first, hsaid, hdone⟩ := hhired.through hplace hfront
      have hrested : ((p.workers ++ [⟨due, some (work app due)⟩] : List Worker).set
          p.workers.length ⟨due, some (.done ())⟩).countP Worker.isBusy = 0 := by
        rw [List.set_append_right _ _ (Nat.le_refl _), Nat.sub_self, List.set_cons_zero,
          List.countP_append]
        exact (Nat.add_zero _).trans hidle
      obtain ⟨more, q, hmore, hrun, hq, hschedule, hclosed⟩ := ih hdone rfl hrested hback
      refine ⟨.hired due :: (first ++ more), q, ?_, ?_, hq, hschedule, hclosed⟩
      · rw [List.flatMap_cons, List.flatMap_append, hsaid, hmore]
        rfl
      · simpa using hrun

/-- The clock can tick, and what is due be worked on, as long as the runner is not asked
to end. -/
theorem Pool.Run.ticks {ticks : Nat} {talk : List Exchange}
    (hworkers : 0 < app.settings.cronWorkers)
    (run : Pool.Run app schedule past p) (hidle : p.Idle) (hopen : p.closed = false)
    (hleads : (Rehearsal.runTicks app ticks p.schedule).Leads talk (.done ())) :
    ∃ more q, more.flatMap PoolEvent.exchanges = talk ∧
      Pool.Run app schedule (past ++ more) q ∧ q.Idle := by
  induction ticks generalizing past p talk with
  | zero =>
      obtain ⟨rfl, -⟩ := Work.leads_done.1 hleads
      exact ⟨[], p, rfl, (List.append_nil past).symm ▸ run, hidle⟩
  | succ ticks ih =>
      rcases Work.leads_ask.1 hleads with ⟨-, hnever⟩ | ⟨goesOn, asked, rfl, hasked⟩
      · cases hnever
      cases goesOn with
      | false =>
          obtain ⟨rfl, -⟩ := Work.leads_done.1 hasked
          exact ⟨[.closed], _, rfl, run.step (.close hidle.given hopen),
            hidle.given, hidle.rested⟩
      | true =>
          rcases Work.leads_ask.1 hasked with ⟨-, hnever⟩ | ⟨now, told, rfl, htold⟩
          · cases hnever
          obtain ⟨_, front, back, rfl, hfront, hback⟩ := @Work.leads_bind_done _ _
            (Rehearsal.workEach app (p.schedule.due now).1) _ _ _ htold
          have hticked := run.step (.tick now hidle.given hopen)
          obtain ⟨first, q, hsaid, hrun, hq, hschedule, hclosed⟩ :=
            hticked.each hworkers rfl hidle.rested hfront
          have hlater :
              (Rehearsal.runTicks app ticks q.schedule).Leads back (.done ()) := by
            rw [hschedule]
            exact hback
          obtain ⟨more, last, hmore, hend, hlast⟩ :=
            ih hrun hq (hclosed.trans hopen) hlater
          refine ⟨.ticked now :: (first ++ more), last, ?_, ?_, hlast⟩
          · rw [List.flatMap_cons, List.flatMap_append, hsaid, hmore]
            rfl
          · simpa using hend

/-- **Rehearsals.**  What the runner of a rehearsal and its jobs say can be said in a
pool. -/
theorem Pool.run_of_runTicks {ticks : Nat} {talk : List Exchange}
    (hworkers : 0 < app.settings.cronWorkers)
    (hleads : (Rehearsal.runTicks app ticks schedule).Leads talk (.done ())) :
    ∃ past p, past.flatMap PoolEvent.exchanges = talk ∧ Pool.Run app schedule past p ∧
      p.Idle :=
  Pool.Run.start.ticks hworkers ⟨rfl, rfl⟩ rfl hleads

end Turnstile.Agenda
