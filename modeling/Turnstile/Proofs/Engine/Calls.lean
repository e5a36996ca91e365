import Turnstile.Proofs.Engine.Steps

/-!
# Calls keep the contract

Between its transactions a worker is at rest.  Draining, batches and jobs go from rest
to rest, whatever fails on the way; an operation that writes is at rest once its own
transaction is committed.  So every call keeps the contract from its start to its end
(`Call.perform_follows`).
-/

set_option autoImplicit false

namespace Turnstile

open Agenda (Job runJob)

/-- The worker has no transaction open, and what it may commit next are steps. -/
structure View.AtRest (app : App) (call : Call) (v : View) : Prop where
  idle : v.stance = .idle
  steps : ∀ d state outcome, call.Concerns d.label → StepDeed app d state outcome →
    call.Deed app v.commits d

variable {app : App} {call : Call} {label : Label} {m : Machine} {v : View} {α : Type}

/-- After its first commit a call commits steps. -/
theorem Call.deed_succ {n : Nat} {d : Desk} {state : State} {outcome : Outcome}
    (hconcerns : call.Concerns d.label) (hstep : StepDeed app d state outcome) :
    call.Deed app (n + 1) d := by
  unfold Call.Deed
  split <;> first | exact ⟨hconcerns, state, outcome, hstep⟩ | contradiction

/-- A worker is at rest after a commit. -/
theorem View.atRest_succ (n : Nat) : View.AtRest app call ⟨n + 1, .idle⟩ :=
  ⟨rfl, fun _ _ _ hconcerns hstep => Call.deed_succ hconcerns hstep⟩

/-! ## Transactions -/

/-- **Transactions.**  What is done in a transaction is committed when it succeeds, so
it has to be a deed then, and is rolled back when it fails, for which a step has to have
a reason. -/
theorem follows_inTransaction {attempt : Attempt α}
    {inside goal : Except EngineError α → View → Prop} (hidle : v.stance = .idle)
    (h : attempt.Follows (protocol app call) inside ⟨v.commits, .begun⟩)
    (hcommit : ∀ a after, inside (.ok a) after → ∃ n d, after = ⟨n, .holding d⟩ ∧
      call.Deed app n d ∧ goal (.ok a) ⟨n + 1, .idle⟩)
    (hrollback : ∀ error after, inside (.error error) after →
      ∃ n d, after = ⟨n, .holding d⟩ ∧
      (d.heard = [] ∨ ∃ error, StepFailure app d error) ∧
      goal (.error error) ⟨n, .idle⟩) :
    (inTransaction attempt).Follows (protocol app call) goal v := by
  change (Work.request (.store .begin) >>= _).Follows _ _ _
  rw [Work.follows_bind, Work.follows_request]
  refine ⟨hidle, ?_⟩
  rintro answer after ⟨rfl, rfl⟩
  rw [Work.follows_bind]
  refine Work.Follows.mono h fun result after hafter => ?_
  cases result with
  | ok a =>
      obtain ⟨n, d, rfl, hdeed, hgoal⟩ := hcommit a after hafter
      rw [settle, Work.follows_bind, Work.follows_request]
      refine ⟨⟨d, rfl, hdeed⟩, ?_⟩
      rintro answer after ⟨rfl, rfl⟩
      exact hgoal
  | error error =>
      obtain ⟨n, d, rfl, hreason, hgoal⟩ := hrollback error after hafter
      rw [settle, Work.follows_bind, Work.follows_request]
      refine ⟨⟨d, rfl, hreason⟩, ?_⟩
      rintro answer after ⟨rfl, rfl⟩
      exact hgoal

/-- A step in a transaction of its own goes from rest to rest. -/
theorem follows_stepping {attempt : Attempt Outcome} (hrest : v.AtRest app call)
    (hconcerns : call.Concerns label)
    (h : attempt.Follows (protocol app call)
      (StepEnds app label v.commits fun d outcome =>
        ∃ state, StepDeed app d state outcome)
      ⟨v.commits, .begun⟩) :
    (inTransaction attempt).Follows (protocol app call)
      (fun _ after => after.AtRest app call) v := by
  refine follows_inTransaction hrest.idle h ?_ ?_
  · rintro outcome after ⟨d, rfl, rfl, -, state, hstep⟩
    exact ⟨_, d, rfl, hrest.steps d state outcome hconcerns hstep, View.atRest_succ _⟩
  · rintro error after ⟨d, rfl, -, -, hfailure⟩
    exact ⟨_, d, rfl, .inr ⟨error, hfailure⟩, rfl, hrest.steps⟩

/-! ## Draining -/

/-- Drains go from rest to rest. -/
theorem follows_drainFrom {limit remaining : Nat} (hrest : v.AtRest app call)
    (hconcerns : call.Concerns label) (hmachine : app.machine label.machine = .ok m) :
    (drainFrom app m label limit remaining).Follows (protocol app call)
      (fun _ after => after.AtRest app call) v := by
  induction remaining generalizing v with
  | zero =>
      exact Attempt.follows_bind.2 (Attempt.follows_ofWork.2 (follows_tellLog.2 hrest))
  | succ remaining ih =>
      refine Work.follows_bind.2 ((follows_stepping hrest hconcerns
        (stepCurrent_ends (.inl rfl) hmachine)).mono fun result after hafter => ?_)
      split
      · exact ih hafter
      all_goals exact hafter

theorem follows_drain (hrest : v.AtRest app call) (hconcerns : call.Concerns label) :
    (drain app label).Follows (protocol app call)
      (fun _ after => after.AtRest app call) v := by
  refine Attempt.follows_bind.2 (Attempt.follows_ofExcept.2 ?_)
  cases hmachine : app.machine label.machine with
  | error error => exact hrest
  | ok m => exact follows_drainFrom hrest hconcerns hmachine

/-- What follows on work that ended at rest, or only tells of its result, ends at rest. -/
theorem follows_telling {event : LogEvent} {result : α} (hrest : v.AtRest app call) :
    (do tellLog event; pure result : Work α).Follows (protocol app call)
      (fun _ after => after.AtRest app call) v := by
  rw [Work.follows_bind, follows_tellLog]
  exact hrest

/-! ## Batches -/

theorem follows_stepOnce {state : State} (hrest : v.AtRest app call)
    (hconcerns : call.Concerns label) (hmachine : app.machine label.machine = .ok m)
    (hmember : state ∈ m.states) :
    (stepOnce app m state label).Follows (protocol app call)
      (fun _ after => after.AtRest app call) v :=
  follows_stepping hrest hconcerns
    ((stepIn_ends (v := ⟨v.commits, .begun⟩) (.inl rfl) hmachine hmember).mono
      fun _ _ => StepEnds.mono fun _ _ h => ⟨state, h⟩)

theorem follows_drainMoved (hrest : v.AtRest app call) (hconcerns : call.Concerns label) :
    (drainMoved app label).Follows (protocol app call)
      (fun _ after => after.AtRest app call) v := by
  refine Work.follows_bind.2
    ((follows_drain hrest hconcerns).mono fun result after hafter => ?_)
  split
  · exact hafter
  · exact hafter
  · exact follows_telling hafter

/-- A visit goes from rest to rest, with either kind of error contained. -/
theorem follows_visit {state : State} (hrest : v.AtRest app call)
    (hconcerns : call.Concerns label) (hmachine : app.machine label.machine = .ok m)
    (hmember : state ∈ m.states) :
    (visit app m state label).Follows (protocol app call)
      (fun _ after => after.AtRest app call) v := by
  refine Work.follows_bind.2 ((follows_stepOnce hrest hconcerns hmachine hmember).mono
    fun result after hafter => ?_)
  split
  · exact Work.follows_bind.2 (follows_drainMoved hafter hconcerns)
  · exact hafter
  · exact hafter
  · exact hafter
  · exact follows_telling hafter

/-- Anybody may be asked whether an end was asked for. -/
theorem follows_stopRequested {goal : Bool → View → Prop} (h : ∀ stop, goal stop v) :
    (Work.request .stopRequested).Follows (protocol app call) goal v :=
  ⟨trivial, fun stop _ hafter => hafter ▸ h stop⟩

/-- So do the visits of a batch, one after another. -/
theorem follows_visitAll {state : State} {names : List String} {summary : BatchSummary}
    (hrest : v.AtRest app call) (hconcerns : ∀ name, call.Concerns ⟨name, m.name⟩)
    (hmachine : app.machine m.name = .ok m) (hmember : state ∈ m.states) :
    (visitAll app m state (Work.request .stopRequested) summary names).Follows
      (protocol app call)
      (fun _ after => after.AtRest app call) v := by
  induction names generalizing v summary with
  | nil => exact hrest
  | cons name rest ih =>
      rw [visitAll]
      refine Work.follows_bind.2 (follows_stopRequested fun stop => ?_)
      cases stop with
      | true => exact hrest
      | false =>
          refine Work.follows_bind.2
            ((follows_visit hrest (hconcerns name) hmachine hmember).mono
              fun _ after hafter => ?_)
          exact ih hafter

theorem follows_runBatch {state : State} {selection : Selection}
    (hrest : v.AtRest app call) (hconcerns : ∀ name, call.Concerns ⟨name, m.name⟩)
    (hmachine : app.machine m.name = .ok m) (hmember : state ∈ m.states) :
    (runBatch app m state selection (Work.request .stopRequested)).Follows
      (protocol app call)
      (fun _ after => after.AtRest app call) v := by
  unfold runBatch
  split
  · exact hrest
  · refine Attempt.follows_bind.2 (Attempt.follows_ofStore.2 ⟨trivial, ?_⟩)
    rintro answer after ⟨⟨rows, rfl⟩, rfl⟩
    exact Attempt.follows_ofWork.2 (follows_visitAll hrest hconcerns hmachine hmember)

/-- A batch is found by the names of its machine and state. -/
theorem follows_batchNamed {machine state : String} {selection : Selection}
    (happ : app.Built) (hrest : v.AtRest app call)
    (hconcerns : ∀ name, call.Concerns ⟨name, machine⟩) :
    (batchNamed app machine state selection).Follows (protocol app call)
      (fun _ after => after.AtRest app call) v := by
  refine Attempt.follows_bind.2 (Attempt.follows_ofExcept.2 ?_)
  cases hmachine : app.machine machine with
  | error error => exact hrest
  | ok m =>
      obtain ⟨-, rfl⟩ := happ.machine hmachine
      refine Attempt.follows_bind.2 (Attempt.follows_ofExcept.2 ?_)
      cases hstate : m.stateNamed state with
      | error error => exact hrest
      | ok found =>
          exact follows_runBatch hrest hconcerns hmachine
            (Machine.mem_of_stateNamed hstate).1

/-- A job runs the batch that it was configured with. -/
theorem follows_runJob {due : Job} {window : Time.Window} (happ : app.Built)
    (hrest : v.AtRest app call) (hconcerns : ∀ name, call.Concerns ⟨name, due.machine⟩) :
    (runJob app due window (Work.request .stopRequested)).Follows (protocol app call)
      (fun _ after => after.AtRest app call) v := by
  refine Attempt.follows_bind.2 (Attempt.follows_ofExcept.2 ?_)
  cases hmachine : app.machine due.machine with
  | error error => exact hrest
  | ok m =>
      obtain ⟨-, hname⟩ := happ.machine hmachine
      refine Attempt.follows_bind.2 (Attempt.follows_ofExcept.2 ?_)
      cases hstate : m.stateNamed due.state with
      | error error => exact hrest
      | ok found =>
          have hbatch : ∀ selection,
              (runBatch app m found selection (Work.request .stopRequested)).Follows
                (protocol app call) (fun _ after => after.AtRest app call) v := fun _ =>
            follows_runBatch hrest (hname ▸ hconcerns) (hname ▸ hmachine)
              (Machine.mem_of_stateNamed hstate).1
          simp only [Except.mapError, afterward]
          split
          · exact hbatch _
          · exact hbatch _
          · split
            · exact hrest
            · exact hbatch _
          · split
            · exact hbatch _
            · exact hrest

/-! ## After a write -/

theorem follows_drainCreated (hrest : v.AtRest app call)
    (hconcerns : call.Concerns label) :
    (drainCreated app label).Follows (protocol app call)
      (fun _ after => after.AtRest app call) v := by
  refine Work.follows_bind.2
    ((follows_drain hrest hconcerns).mono fun result after hafter => ?_)
  split
  · exact hafter
  · exact hafter
  · exact follows_tellLog.2 hafter

theorem follows_drainUpdated (hrest : v.AtRest app call)
    (hconcerns : call.Concerns label) :
    (drainUpdated app label).Follows (protocol app call)
      (fun _ after => after.AtRest app call) v := by
  refine Work.follows_bind.2
    ((follows_drain hrest hconcerns).mono fun result after hafter => ?_)
  split
  · exact hafter
  · exact follows_tellLog.2 hafter

/-- The move to a gate is a step of its own. -/
theorem follows_takeToGate {gate : Gate} (hrest : v.AtRest app call)
    (hconcerns : call.Concerns label) (hmachine : app.machine label.machine = .ok m)
    (hmember : .gate gate ∈ m.states) :
    (takeToGate app m label gate).Follows (protocol app call)
      (fun _ after => after.AtRest app call) v := by
  refine Work.follows_bind.2 ((follows_stepOnce hrest hconcerns hmachine hmember).mono
    fun result after hafter => ?_)
  split
  · exact follows_drainUpdated hafter hconcerns
  · exact hafter
  · exact hafter
  · exact follows_tellLog.2 hafter

/-! ## Operations that write -/

/-- The gate that an update fires is a state of the machine. -/
theorem mem_of_triggeredGate? {history : History} {old patch new : Value} {gate : Gate}
    (h : triggeredGate? m history old patch new = some gate) : .gate gate ∈ m.states := by
  simp only [triggeredGate?, Option.bind_eq_bind, Option.bind_eq_some_iff] at h
  obtain ⟨name, -, state, hstate, found, hfound, hfires⟩ := h
  split at hfires
  · obtain rfl : found = gate := Option.some.inj hfires
    cases state with
    | gate other =>
        obtain rfl : other = found := Option.some.inj hfound
        exact (Machine.mem_of_state? hstate).1
    | action _ => cases hfound
  · cases hfires

/-- How the transaction of an operation that writes ends before it is settled: with the
deed of the operation, and with what is known of the result; or with a failure, when
nothing was heard. -/
def Staged (app : App) (call : Call) (known : α → Prop) :
    Except EngineError α → View → Prop
  | .ok a, after => ∃ d, after = ⟨0, .holding d⟩ ∧ call.Deed app 0 d ∧ known a
  | .error _, after => ∃ d, after = ⟨0, .holding d⟩ ∧ d.heard = []

/-- An operation that writes is at rest after its transaction, or has failed. -/
def Written (app : App) (call : Call) (known : α → Prop) :
    Except EngineError α → View → Prop
  | .ok a, after => after.AtRest app call ∧ known a
  | .error _, after => after.stance = .idle

/-- What is staged between begin and commit is written, or nothing is. -/
theorem follows_writing {attempt : Attempt α} {known : α → Prop}
    (h : attempt.Follows (protocol app call) (Staged app call known) ⟨0, .begun⟩) :
    (inTransaction attempt).Follows (protocol app call) (Written app call known)
      ⟨0, .idle⟩ := by
  refine follows_inTransaction rfl h ?_ ?_
  · rintro a after ⟨d, rfl, hdeed, hknown⟩
    exact ⟨0, d, rfl, hdeed, View.atRest_succ 0, hknown⟩
  · rintro error after ⟨d, rfl, hheard⟩
    exact ⟨0, d, rfl, .inl hheard, rfl⟩

/-- A creation stages the row and its first entry. -/
theorem stageCreation_ends {metadata : Value} {first : State}
    (hmachine : app.machine label.machine = .ok m) (hfirst : m.initial? = some first) :
    (stageCreation label metadata first.name).Follows
      (protocol app (.operation (.create label metadata)))
      (Staged app (.operation (.create label metadata)) fun _ => True) ⟨0, .begun⟩ := by
  refine Attempt.follows_bind.2 (follows_lockRow (.inl rfl) fun d hopens => ?_)
  simp only [afterward]
  cases hrow : d.row with
  | some row => exact ⟨d, rfl, hopens.heard⟩
  | none =>
      refine Attempt.follows_bind.2 (follows_saveRow hopens.label ?_)
      refine Attempt.follows_bind.2
        (follows_appendMove hopens.label hopens.added fun entry hadds => ?_)
      obtain rfl := hopens.label
      exact ⟨_, rfl, ⟨rfl, hrow, rfl, m, first, hmachine, hfirst, hadds⟩, trivial⟩

/-- An update stages the merged row, and goes on to a gate of the machine if to any. -/
theorem stageUpdate_ends {patch : Value} (hmachine : app.machine label.machine = .ok m) :
    (stageUpdate m label patch).Follows (protocol app (.operation (.update label patch)))
      (Staged app (.operation (.update label patch))
        fun result => ∀ gate, result.2 = some gate → .gate gate ∈ m.states)
          ⟨0, .begun⟩ := by
  refine Attempt.follows_bind.2
    (follows_lockLive (.inl rfl) (fun d _ hopens _ => ⟨d, rfl, hopens.heard⟩)
      fun d row hopens hlive => ?_)
  obtain ⟨-, -, -, hown, -⟩ := hopens.lawful.of_live hlive
  refine Attempt.follows_bind.2 (follows_saveRow hown.symm ?_)
  obtain rfl := hopens.label
  exact ⟨_, rfl, ⟨rfl, hopens.heard, hopens.added, m, row, hmachine, hlive, rfl⟩,
    fun gate => mem_of_triggeredGate?⟩

/-- A deletion stages the row marked deleted with a last entry, or nothing. -/
theorem stageDeletion_ends :
    (stageDeletion label).Follows (protocol app (.operation (.delete label)))
      (Staged app (.operation (.delete label)) fun _ => True) ⟨0, .begun⟩ := by
  refine Attempt.follows_bind.2 (follows_lockRow (.inl rfl) fun d hopens => ?_)
  simp only [afterward]
  cases hrow : d.row with
  | none => exact ⟨d, rfl, hopens.heard⟩
  | some row =>
      simp only
      split
      · next hdeleted =>
          exact ⟨d, rfl,
            ⟨hopens.label, .before hrow hdeleted hopens.saved hopens.added⟩, trivial⟩
      · next halive =>
          have hlive : d.Live row := ⟨hrow, by simpa using halive⟩
          obtain ⟨-, -, -, hown, -⟩ := hopens.lawful.of_live hlive
          refine Attempt.follows_bind.2
            (follows_readOwnHistory hopens.label hopens.added hopens.lawful ?_)
          refine Attempt.follows_bind.2 (follows_saveRow hown.symm ?_)
          refine Attempt.follows_bind.2 (follows_appendMove hopens.label hopens.added
            fun entry hadds => ?_)
          obtain rfl := hopens.label
          exact ⟨_, rfl, ⟨rfl, .now hopens.heard hlive rfl hadds⟩, trivial⟩

/-- A demand stages one move to a state of the machine. -/
theorem stageDemand_ends {state : String} (hmachine : app.machine label.machine = .ok m)
    (hstate : (m.state? state).isSome) :
    (stageDemand label state).Follows (protocol app (.operation (.force label state)))
      (Staged app (.operation (.force label state)) fun _ => True) ⟨0, .begun⟩ := by
  refine Attempt.follows_bind.2
    (follows_lockLive (.inl rfl) (fun d _ hopens _ => ⟨d, rfl, hopens.heard⟩)
      fun d row hopens hlive => ?_)
  refine Attempt.follows_bind.2
    (follows_appendMove hopens.label hopens.added fun entry hadds => ?_)
  obtain rfl := hopens.label
  exact ⟨_, rfl,
    ⟨rfl, hopens.heard, hopens.saved, ⟨row, hlive⟩, ⟨m, hmachine, hstate⟩,
      hadds⟩, trivial⟩

/-- Creations keep their contract. -/
theorem follows_createLabel {metadata : Value} :
    (createLabel app label metadata).Follows
      (protocol app (.operation (.create label metadata)))
      (fun _ after => after.stance = .idle) ⟨0, .idle⟩ := by
  refine Attempt.follows_bind.2 (Attempt.follows_ofExcept.2 ?_)
  cases hmachine : app.machine label.machine with
  | error error => rfl
  | ok m =>
      simp only [Except.mapError, afterward]
      split
      · rfl
      · refine Attempt.follows_bind.2 (Attempt.follows_ofExcept.2 ?_)
        cases hfirst : m.initial? with
        | none => simp [Machine.firstState, hfirst, Except.mapError, afterward]
        | some first =>
            simp only [Machine.firstState, hfirst, Except.mapError, afterward]
            refine Attempt.follows_bind.2
              ((follows_writing (stageCreation_ends hmachine hfirst)).mono
                fun result after hwritten => ?_)
            cases result with
            | error error => exact hwritten
            | ok _ =>
                refine Attempt.follows_bind.2 (Attempt.follows_ofWork.2 ?_)
                exact (follows_drainCreated hwritten.1 rfl).mono fun _ _ hrest =>
                  hrest.idle

/-- Updates keep their contract. -/
theorem follows_updateLabel {patch : Value} :
    (updateLabel app label patch).Follows
      (protocol app (.operation (.update label patch)))
      (fun _ after => after.stance = .idle) ⟨0, .idle⟩ := by
  refine Attempt.follows_bind.2 (Attempt.follows_ofExcept.2 ?_)
  cases hmachine : app.machine label.machine with
  | error error => rfl
  | ok m =>
      simp only [Except.mapError, afterward]
      split
      · rfl
      · refine Attempt.follows_bind.2 ((follows_writing (stageUpdate_ends hmachine)).mono
          fun result after hwritten => ?_)
        cases result with
        | error error => exact hwritten
        | ok result =>
            obtain ⟨merged, gate?⟩ := result
            obtain ⟨hrest, hgate⟩ := hwritten
            cases gate? with
            | none => exact hrest.idle
            | some gate =>
                refine Attempt.follows_bind.2 (Attempt.follows_ofWork.2 ?_)
                exact (follows_takeToGate hrest rfl hmachine (hgate gate rfl)).mono
                  fun _ _ hrest => hrest.idle

/-- Deletions keep their contract. -/
theorem follows_deleteLabel :
    (deleteLabel app label).Follows (protocol app (.operation (.delete label)))
      (fun _ after => after.stance = .idle) ⟨0, .idle⟩ := by
  refine Attempt.follows_bind.2 (Attempt.follows_ofExcept.2 ?_)
  cases hmachine : app.machine label.machine with
  | error error => rfl
  | ok m =>
      refine (follows_writing stageDeletion_ends).mono fun result after hwritten => ?_
      cases result with
      | error error => exact hwritten
      | ok _ => exact hwritten.1.idle

/-- Demands keep their contract. -/
theorem follows_forceLabel {state : String} :
    (forceLabel app label state).Follows (protocol app (.operation (.force label state)))
      (fun _ after => after.stance = .idle) ⟨0, .idle⟩ := by
  refine Attempt.follows_bind.2 (Attempt.follows_ofExcept.2 ?_)
  cases hmachine : app.machine label.machine with
  | error error => rfl
  | ok m =>
      refine Attempt.follows_bind.2 (Attempt.follows_ofExcept.2 ?_)
      cases hstate : m.stateNamed state with
      | error error => rfl
      | ok found =>
          have hknown : (m.state? state).isSome := by
            unfold Machine.stateNamed at hstate
            split at hstate
            · next h => simp [h]
            · cases hstate
          refine Attempt.follows_bind.2
            ((follows_writing (stageDemand_ends hmachine hknown)).mono
              fun result after hwritten => ?_)
          cases result with
          | error error => exact hwritten
          | ok _ =>
              refine Attempt.follows_bind.2 ((follows_drain hwritten.1 rfl).mono
                fun result after hrest => ?_)
              cases result <;> exact hrest.idle

/-! ## Operations that read -/

/-- Rows are read outside transactions. -/
theorem follows_readRow {goal : Except EngineError (Option Record) → View → Prop}
    (h : ∀ found, goal (.ok found) v) :
    (readRow label).Follows (protocol app call) goal v := by
  refine Attempt.follows_ofStore.2 ⟨trivial, ?_⟩
  rintro answer after ⟨⟨found, rfl⟩, rfl⟩
  exact h found

theorem follows_readHistory {goal : Except EngineError History → View → Prop}
    (h : ∀ found, goal (.ok found) v) :
    (readHistory label).Follows (protocol app call) goal v := by
  refine Attempt.follows_bind.2 (Attempt.follows_ofStore.2 ⟨trivial, ?_⟩)
  rintro answer after ⟨⟨found, rfl⟩, rfl⟩
  exact h (History.ofEntries found)

/-- A row that is read must be live to be of use. -/
theorem follows_readLive {goal : Except EngineError Record → View → Prop}
    (h : ∀ result, goal result v) :
    (readLive label).Follows (protocol app call) goal v := by
  refine Attempt.follows_bind.2 (follows_readRow fun found => ?_)
  cases found with
  | none => exact h _
  | some row =>
      simp only [afterward]
      split
      · exact h _
      · exact h _

theorem follows_labelMetadata {goal : Except EngineError Value → View → Prop}
    (h : ∀ result, goal result v) :
    (labelMetadata app label).Follows (protocol app call) goal v := by
  refine Attempt.follows_bind.2 (Attempt.follows_ofExcept.2 ?_)
  cases app.machine label.machine with
  | error error => exact h _
  | ok m =>
      refine Attempt.follows_bind.2 (follows_readLive fun result => ?_)
      cases result <;> exact h _

theorem follows_labelState {goal : Except EngineError String → View → Prop}
    (h : ∀ result, goal result v) :
    (labelState app label).Follows (protocol app call) goal v := by
  refine Attempt.follows_bind.2 (Attempt.follows_ofExcept.2 ?_)
  cases app.machine label.machine with
  | error error => exact h _
  | ok m =>
      refine Attempt.follows_bind.2 (follows_readLive fun result => ?_)
      cases result with
      | error error => exact h _
      | ok row =>
          refine Attempt.follows_bind.2 (follows_readHistory fun history => ?_)
          simp only [afterward]
          split <;> exact h _

theorem follows_labelHistory {goal : Except EngineError History → View → Prop}
    (h : ∀ result, goal result v) :
    (labelHistory app label).Follows (protocol app call) goal v := by
  refine Attempt.follows_bind.2 (Attempt.follows_ofExcept.2 ?_)
  cases app.machine label.machine with
  | error error => exact h _
  | ok m =>
      refine Attempt.follows_bind.2 (follows_readRow fun found => ?_)
      cases found with
      | none => exact h _
      | some row => exact follows_readHistory fun history => h _

theorem follows_listLabels {machine : String}
    {goal : Except EngineError (List String) → View → Prop}
    (h : ∀ result, goal result v) :
    (listLabels app machine).Follows (protocol app call) goal v := by
  refine Attempt.follows_bind.2 (Attempt.follows_ofExcept.2 ?_)
  cases app.machine machine with
  | error error => exact h _
  | ok m =>
      refine Attempt.follows_ofStore.2 ⟨trivial, ?_⟩
      rintro answer after ⟨⟨found, rfl⟩, rfl⟩
      exact h (.ok found)

/-! ## Calls -/

/-- A call whose result is put into another form follows the same contract. -/
theorem follows_map {β : Type} {attempt : Attempt α} {wrap : α → β}
    (h : attempt.Follows (protocol app call) (fun _ after => after.stance = .idle) v) :
    (do let a ← attempt; pure (wrap a) : Attempt β).Follows (protocol app call)
      (fun _ after => after.stance = .idle) v :=
  Attempt.follows_bind.2
    (h.mono fun result after hidle => by cases result <;> exact hidle)

/-- **Every operation keeps its contract**, and leaves its client idle. -/
theorem Operation.perform_follows (op : Operation) :
    (op.perform app).Follows (protocol app (.operation op))
      (fun _ after => after.stance = .idle) ⟨0, .idle⟩ := by
  cases op with
  | create label metadata => exact follows_map follows_createLabel
  | update label patch => exact follows_map follows_updateLabel
  | delete label => exact follows_map follows_deleteLabel
  | force label state => exact follows_map follows_forceLabel
  | metadata label => exact follows_map (follows_labelMetadata fun _ => rfl)
  | state label => exact follows_map (follows_labelState fun _ => rfl)
  | history label => exact follows_map (follows_labelHistory fun _ => rfl)
  | drain label =>
      have hrest : View.AtRest app (.operation (.drain label)) ⟨0, .idle⟩ :=
        ⟨rfl, fun _ state outcome hconcerns hstep => ⟨hconcerns, state, outcome, hstep⟩⟩
      exact follows_map ((follows_drain hrest rfl).mono fun _ _ hafter => hafter.idle)
  | list machine => exact follows_map (follows_listLabels fun _ => rfl)

/-- **Calls keep the contract.**  Whatever the world answers, a call uses transactions
as it should, commits deeds only, and ends without an open transaction. -/
theorem Call.perform_follows (happ : app.Built) (call : Call) :
    (call.perform app).Follows (protocol app call)
      (fun _ after => after.stance = .idle) ⟨0, .idle⟩ := by
  cases call with
  | operation op => exact follows_map op.perform_follows
  | batch machine state selection =>
      have hrest : View.AtRest app (.batch machine state selection) ⟨0, .idle⟩ :=
        ⟨rfl, fun _ state outcome hconcerns hstep => ⟨hconcerns, state, outcome, hstep⟩⟩
      exact follows_map ((follows_batchNamed happ hrest fun _ => rfl).mono
        fun _ _ hafter => hafter.idle)
  | job due window =>
      have hrest : View.AtRest app (.job due window) ⟨0, .idle⟩ :=
        ⟨rfl, fun _ state outcome hconcerns hstep => ⟨hconcerns, state, outcome, hstep⟩⟩
      exact follows_map ((follows_runJob happ hrest fun _ => rfl).mono
        fun _ _ hafter => hafter.idle)

end Turnstile
