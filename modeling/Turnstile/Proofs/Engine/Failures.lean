import Turnstile.Proofs.Condition.Failures
import Turnstile.Proofs.Engine.Calls

/-!
# Failures that configuration rules out

Some failures tell of a mistake in the machines of an application, and not of its labels
or of the world (`EngineError.Misconfigured`).  Built machines do not make them.  Only
whoever fetches documents can still bring one about, by saying of its own accord that a
feed is not declared.

`Attempt.FailsOnly` says which failures an attempt may end in when it is answered as the
contract of a call says and only certain feeds are said to be missing (`answering`).  It
composes with the attempt, so every function of the engine has one lemma; that of a step
is read off `StepFailure`.
-/

set_option autoImplicit false

namespace Turnstile

open Time (DateTime Window)

/-- Failures that tell of a mistake in the configuration. -/
inductive EngineError.Misconfigured : EngineError → Prop
  | unknownState (machine state : String) : Misconfigured (.unknownState machine state)
  | terminal : Misconfigured (.route .terminal)
  | noReceiver (machine : String) : Misconfigured (.noReceiver machine)
  | undeclared (feed : String) : Misconfigured (.feed (.undeclared feed))
  | notLocked (label : Label) : Misconfigured (.store (.notLocked label))
  | evaluation {cause : Condition.Failure} (gate : String) (hcause : cause.Internal) :
      Misconfigured (.evaluation gate cause)

/-- If something is fetched, and the answer is that a feed is not declared, it is one of
these. -/
def Exchange.TellsOnly (told : String → Prop) (exchange : Exchange) : Prop :=
  ∀ url feed, exchange = ⟨.fetch url, .error (.undeclared feed)⟩ → told feed

/-- The failure passes on that one of these feeds is not declared. -/
def EngineError.PassesOn (told : String → Prop) (error : EngineError) : Prop :=
  ∃ feed, told feed ∧ error = .feed (.undeclared feed)

/-- The contract of a call as far as it says how the world answers, when no other feeds
are said to be missing. -/
def answering (app : App) (told : String → Prop) : Protocol View where
  may _ _ := True
  reply v r answer after := v.Reply app r answer after ∧
    Exchange.TellsOnly told ⟨r, answer⟩

variable {app : App} {call : Call} {label : Label} {v w : View} {α β : Type}
variable {allowed : EngineError → Prop} {told : String → Prop}

/-! ## The contract -/

/-- Whoever may ask anything keeps to it. -/
theorem follows_answering (work : Work α) (v : View) :
    work.Follows (answering app told) (fun _ _ => True) v := by
  induction work generalizing v with
  | done a => trivial
  | ask r next ih => exact ⟨trivial, fun answer after _ => ih answer after⟩

/-- On the desk no other feeds are said to be missing. -/
def View.TellsOnly (told : String → Prop) (v : View) : Prop :=
  ∀ d, v.stance = .holding d → ∀ exchange ∈ d.heard, exchange.TellsOnly told

/-- The store answers every request that it is asked as the contract says. -/
theorem View.Reply.isOk {request : StoreRequest}
    {answer : Except StoreError request.Result}
    (h : v.Reply app (.store request) answer w) : ∃ a, answer = .ok a := by
  cases request with
  | lock label =>
      rcases h with ⟨-, row, past, -, rfl, -⟩ | ⟨d, -, rfl, -⟩
      · exact ⟨_, rfl⟩
      · exact ⟨_, rfl⟩
  | append move => obtain ⟨_, entry, -, -, -, rfl, -⟩ := h; exact ⟨entry, rfl⟩
  | save row => obtain ⟨_, -, rfl, -⟩ := h; exact ⟨_, rfl⟩
  | ownHistory label => obtain ⟨_, -, rfl, -⟩ := h; exact ⟨_, rfl⟩
  | begin => exact ⟨_, h.1⟩
  | commit => exact ⟨_, h.1⟩
  | rollback => exact ⟨_, h.1⟩
  | row label => exact h.1
  | history label => exact h.1
  | rowsInState machine state => exact h.1
  | liveNames machine => exact h.1

/-- An answer brings no other feeds to the desk. -/
theorem View.TellsOnly.reply {r : Request} {answer : r.Answer} (h : v.TellsOnly told)
    (hreply : (answering app told).reply v r answer w) : w.TellsOnly told := by
  obtain ⟨hreply, hanswer⟩ := hreply
  have hhear : (v.hear ⟨r, answer⟩).TellsOnly told := by
    intro d hd exchange hexchange
    unfold View.hear at hd
    split at hd
    next d' hd' =>
      cases hd
      rcases List.mem_append.1 hexchange with hold | hnew
      · exact h d' hd' exchange hold
      · exact List.mem_singleton.1 hnew ▸ hanswer
    next => exact h d hd exchange hexchange
  have hkept :
      ∀ {d : Desk} {saved : Option Record} {added : List Entry}, v.stance = .holding d →
        View.TellsOnly told
          { v with stance := .holding { d with saved := saved, added := added } } := by
    rintro d saved added hd _ ⟨⟩
    exact h d hd
  cases r with
  | store request =>
      cases request with
      | lock label =>
          rcases hreply with ⟨-, row, past, -, -, rfl⟩ | ⟨d, -, -, rfl⟩
          · rintro _ ⟨⟩ exchange ⟨⟩
          · exact h
      | save row => obtain ⟨d, hd, -, rfl⟩ := hreply; exact hkept hd
      | append move => obtain ⟨d, entry, hd, -, -, -, rfl⟩ := hreply; exact hkept hd
      | ownHistory label => obtain ⟨d, -, -, rfl⟩ := hreply; exact h
      | begin => obtain ⟨-, rfl⟩ := hreply; rintro _ ⟨⟩
      | commit => obtain ⟨-, rfl⟩ := hreply; rintro _ ⟨⟩
      | rollback => obtain ⟨-, rfl⟩ := hreply; rintro _ ⟨⟩
      | row label => exact hreply.2 ▸ h
      | history label => exact hreply.2 ▸ h
      | rowsInState machine state => exact hreply.2 ▸ h
      | liveNames machine => exact hreply.2 ▸ h
  | deliver delivery => exact hreply ▸ hhear
  | fetch url => exact hreply ▸ hhear
  | now => exact hreply ▸ hhear
  | notify notice => exact hreply ▸ h
  | log event => exact hreply ▸ h
  | stopRequested => exact hreply ▸ h
  | nextTick => exact hreply ▸ h

/-- Work that keeps the contract of a call is answered by it, and leaves a desk on which
no other feeds are said to be missing. -/
theorem Work.Follows.answered {work : Work α} {goal : α → View → Prop}
    (hv : v.TellsOnly told) (h : work.Follows (protocol app call) goal v) :
    work.Follows (answering app told)
      (fun a after => goal a after ∧ after.TellsOnly told) v := by
  induction work generalizing v with
  | done a => exact ⟨h, hv⟩
  | ask r next ih =>
      exact ⟨trivial, fun answer after hreply =>
        ih answer (hv.reply hreply) (h.2 answer after hreply.1)⟩

/-! ## Failures of a step -/

/-- The webhooks of the machines of an application can be delivered. -/
theorem App.delivers_of_machine {name : String} {m : Machine}
    (h : app.machine name = .ok m) :
    app.delivers name = true := by
  unfold App.machine at h
  split at h
  next hfound => simp [App.delivers, hfound]
  next => cases h

/-- A route that labels can take does not say that its state is terminal. -/
theorem Route.next_ne_terminal {route : Route} (hopen : route.isTerminal = false)
    {lookup : Value.Path → Value} : route.next lookup ≠ .error .terminal := by
  cases route with
  | stay => cases hopen
  | always state => simp [Route.next]
  | byValue path arms =>
      simp only [Route.next]
      split <;> simp

/-- A live label is in a state that its machine has. -/
theorem Lawful.state_known {d : Desk} {m : Machine} {row : Record} {state : String}
    (h : Lawful app d.label d.row d.past) (hmachine : app.machine d.label.machine = .ok m)
    (hlive : d.Live row) (hstate : d.state? = some state) : (m.state? state).isSome := by
  obtain ⟨m', _, hfound, -, walk, -⟩ := h.of_live hlive
  obtain rfl : m = m' := by simpa using hmachine.symm.trans hfound
  obtain ⟨entry, hcurrent, hentered⟩ := Option.bind_eq_some_iff.1 hstate
  exact walk.entered_state entry (List.mem_of_getLast? hcurrent) _ hentered

/-- Mistakes in the configuration apart, anything may go wrong; and what was said to be
missing may be passed on. -/
abbrev Configured (told : String → Prop) (error : EngineError) : Prop :=
  error.Misconfigured → error.PassesOn told

/-- **Steps.**  In an application of built machines a step on a lawful label does not
fail for a mistake in the configuration. -/
theorem StepFailure.isConfigured (happ : app.Built) {d : Desk} {error : EngineError}
    (h : StepFailure app d error) (hlawful : Lawful app d.label d.row d.past)
    (hheard : ∀ exchange ∈ d.heard, exchange.TellsOnly told) : Configured told error := by
  cases h with
  | unborn hrow => rintro ⟨⟩
  | deleted hrow hdeleted => rintro ⟨⟩
  | unreceived hat hnothing hreceiver =>
      have hdelivers :=
        App.delivers_of_machine ((happ.machine hat.machine).2 ▸ hat.machine)
      cases hdelivers.symm.trans hreceiver
  | stranded hat hcurrent hopen hnext =>
      rintro ⟨⟩
      exact absurd hnext (Route.next_ne_terminal hopen)
  | undeclared hat hname hfeed =>
      obtain ⟨feed, hdeclared⟩ := (happ.machine hat.machine).1.declared hat.member hname
      cases hdeclared.symm.trans hfeed
  | unanswered hat hsaid =>
      rintro ⟨⟩
      exact ⟨_, hheard _ hsaid _ _ rfl, rfl⟩
  | unevaluated hat hsaw hrun =>
      obtain ⟨source, hcompile⟩ := (happ.machine hat.machine).1.compiled hat.member
      rintro (_ | _ | _ | _ | _ | ⟨_, hcause⟩)
      exact absurd hcause (Condition.Program.run_external hcompile hrun)
  | unrouted hat hopen hsaw hnext =>
      rintro ⟨⟩
      exact absurd hnext (Route.next_ne_terminal hopen)
  | lost hmachine hlive hstate hunknown =>
      have hknown := hlawful.state_known hmachine hlive hstate
      rw [hunknown] at hknown
      cases hknown

/-! ## Attempts that fail only so -/

/-- However it is answered, if no other feeds are said to be missing, the attempt fails
only as it is allowed to. -/
def Attempt.FailsOnly (app : App) (told : String → Prop) (allowed : EngineError → Prop)
    (attempt : Attempt α) : Prop :=
  ∀ v, attempt.Follows (answering app told)
    (fun result _ => ∀ error, result = .error error → allowed error) v

namespace Attempt.FailsOnly

theorem pure (a : α) : (Pure.pure a : Attempt α).FailsOnly app told allowed := by
  rintro v error ⟨⟩

theorem throw {error : EngineError} (h : allowed error) :
    (MonadExcept.throw error : Attempt α).FailsOnly app told allowed := by
  rintro v _ ⟨⟩
  exact h

theorem bind {first : Attempt β} {next : β → Attempt α}
    (hfirst : first.FailsOnly app told allowed)
    (hnext : ∀ b, (next b).FailsOnly app told allowed) :
    (first >>= next).FailsOnly app told allowed := by
  refine fun v => Attempt.follows_bind.2 ((hfirst v).mono fun result after hresult => ?_)
  cases result with
  | ok b => exact hnext b after
  | error error => rintro _ ⟨⟩; exact hresult error rfl

theorem ofStore (request : StoreRequest) :
    (Attempt.ofStore request).FailsOnly app told allowed := by
  refine fun v => Attempt.follows_ofStore.2 ⟨trivial, ?_⟩
  rintro answer after ⟨hreply, -⟩ error herror
  obtain ⟨a, rfl⟩ := hreply.isOk
  cases herror

theorem ofWork (work : Work α) : (Attempt.ofWork work).FailsOnly app told allowed := by
  refine fun v => Attempt.follows_ofWork.2 ((follows_answering work v).mono ?_)
  rintro a after - error ⟨⟩

theorem ofExcept {ε : Type} {wrap : ε → EngineError} {result : Except ε α}
    (h : ∀ cause, result = .error cause → allowed (wrap cause)) :
    (Attempt.ofExcept wrap result).FailsOnly app told allowed := by
  intro v error herror
  cases result with
  | ok a => cases herror
  | error cause => cases herror; exact h cause rfl

/-- What goes on with a result knows that it is the result. -/
theorem ofExcept_bind {ε : Type} {wrap : ε → EngineError} {result : Except ε β}
    {next : β → Attempt α}
    (herror : ∀ cause, result = .error cause → allowed (wrap cause))
    (hok : ∀ b, result = .ok b → (next b).FailsOnly app told allowed) :
    (Attempt.ofExcept wrap result >>= next).FailsOnly app told allowed := by
  cases result with
  | ok b => exact fun v => Attempt.follows_bind.2 (hok b rfl v)
  | error cause =>
      refine fun v => Attempt.follows_bind.2 ?_
      rintro _ ⟨⟩
      exact herror cause rfl

theorem mono {wider : EngineError → Prop} {attempt : Attempt α}
    (h : attempt.FailsOnly app told allowed)
    (hwider : ∀ error, allowed error → wider error) : attempt.FailsOnly app told wider :=
  fun v => (h v).mono fun _ _ hresult error herror => hwider error (hresult error herror)

end Attempt.FailsOnly

/-- A transaction fails as what is done in it. -/
theorem inTransaction_failsOnly {attempt : Attempt α}
    (h : ∀ n, attempt.Follows (answering app told)
      (fun result _ => ∀ error, result = .error error → allowed error) ⟨n, .begun⟩) :
    (inTransaction attempt).FailsOnly app told allowed := by
  intro v
  change (Work.request (.store .begin) >>= _).Follows _ _ _
  rw [Work.follows_bind, Work.follows_request]
  refine ⟨trivial, ?_⟩
  rintro answer after ⟨⟨rfl, rfl⟩, -⟩
  rw [Work.follows_bind]
  refine Work.Follows.mono (h v.commits) fun result after hresult => ?_
  cases result with
  | ok a =>
      rw [settle, Work.follows_bind, Work.follows_request]
      refine ⟨trivial, ?_⟩
      rintro answer after ⟨⟨rfl, rfl⟩, -⟩ error ⟨⟩
  | error error =>
      rw [settle, Work.follows_bind, Work.follows_request]
      refine ⟨trivial, ?_⟩
      rintro answer after ⟨⟨rfl, rfl⟩, -⟩ _ ⟨⟩
      exact hresult error rfl

/-! ## Steps and drains -/

/-- A transaction in which a step ends fails as the step does. -/
theorem stepping_failsOnly (happ : app.Built) (call : Call) {attempt : Attempt Outcome}
    {deed : Desk → Outcome → Prop}
    (h : ∀ n,
      attempt.Follows (protocol app call) (StepEnds app label n deed) ⟨n, .begun⟩) :
    (inTransaction attempt).FailsOnly app told (Configured told) := by
  refine inTransaction_failsOnly fun n =>
    (Work.Follows.answered (by rintro _ ⟨⟩) (h n)).mono ?_
  rintro result after ⟨hends, htold⟩ error rfl
  obtain ⟨d, rfl, -, hlawful, hfailure⟩ := hends
  exact hfailure.isConfigured happ hlawful (htold d rfl)

/-- A visit fails as a step does. -/
theorem stepOnce_failsOnly (happ : app.Built) {m : Machine} {state : State}
    (hmachine : app.machine label.machine = .ok m) (hmember : state ∈ m.states) :
    (stepOnce app m state label).FailsOnly app told (Configured told) :=
  stepping_failsOnly happ (.operation (.drain label)) fun n =>
    stepIn_ends (v := ⟨n, .begun⟩) (.inl rfl) hmachine hmember

/-- So does a drain, which is made of steps. -/
theorem drainFrom_failsOnly (happ : app.Built) {m : Machine}
    (hmachine : app.machine label.machine = .ok m) (limit remaining : Nat) :
    (drainFrom app m label limit remaining).FailsOnly app told (Configured told) := by
  induction remaining with
  | zero => exact .bind (.ofWork _) fun _ => .pure _
  | succ remaining ih =>
      have hstep : (inTransaction (stepCurrent app m label)).FailsOnly app told
          (Configured told) :=
        stepping_failsOnly happ (.operation (.drain label)) fun n =>
          stepCurrent_ends (v := ⟨n, .begun⟩) (.inl rfl) hmachine
      refine fun v => Work.follows_bind.2 ((hstep v).mono fun result after hresult => ?_)
      split
      · exact ih after
      · rintro error ⟨⟩
      · rintro error ⟨⟩
      · rintro error ⟨⟩
        exact hresult _ rfl

/-- To ask for a machine that the application does not have is not a mistake of its
configuration. -/
theorem App.configured_of_machine {name : String} {cause : EngineError}
    (h : app.machine name = .error cause) : Configured told cause := by
  unfold App.machine at h
  split at h <;> cases h
  rintro ⟨⟩

theorem drain_failsOnly (happ : app.Built) (label : Label) :
    (drain app label).FailsOnly app told (Configured told) :=
  .ofExcept_bind (fun _ => App.configured_of_machine) fun _ hmachine =>
    drainFrom_failsOnly happ hmachine _ _

/-! ## Operations -/

theorem lockLive_failsOnly (label : Label) :
    (lockLive label).FailsOnly app told (Configured told) := by
  refine .bind (.ofStore _) fun row => ?_
  split
  · exact .throw (by rintro ⟨⟩)
  · split
    · exact .throw (by rintro ⟨⟩)
    · exact .bind (.bind (.ofStore _) fun _ => .pure _) fun _ => .pure _

/-- Creations have no state to be wrong about. -/
theorem createLabel_failsOnly (label : Label) (metadata : Value) :
    (createLabel app label metadata).FailsOnly app told (Configured told) := by
  refine .bind (.ofExcept fun _ => App.configured_of_machine) fun m => ?_
  split
  · exact .throw (by rintro ⟨⟩)
  · refine .bind (.ofExcept fun cause hcause => ?_) fun first => ?_
    · unfold Machine.firstState at hcause
      split at hcause <;> cases hcause
      rintro ⟨⟩
    · refine .bind (inTransaction_failsOnly fun n => ?_) fun _ =>
        .bind (.ofWork _) fun _ => .pure _
      refine (Attempt.FailsOnly.bind (.ofStore _) fun row => ?_) _
      split
      · exact .throw (by rintro ⟨⟩)
      · exact .bind (.ofStore _) fun _ => .bind (.ofStore _) fun _ => .pure _

/-- Updates go to the gate of the label's own machine, if to any. -/
theorem updateLabel_failsOnly (label : Label) (patch : Value) :
    (updateLabel app label patch).FailsOnly app told (Configured told) := by
  refine .bind (.ofExcept fun _ => App.configured_of_machine) fun m => ?_
  split
  · exact .throw (by rintro ⟨⟩)
  · refine .bind (inTransaction_failsOnly fun n => ?_) fun merged => ?_
    · exact (Attempt.FailsOnly.bind (lockLive_failsOnly label) fun _ =>
        .bind (.ofStore _) fun _ => .pure _) _
    · obtain ⟨merged, gate?⟩ := merged
      cases gate? with
      | some gate => exact .bind (.ofWork _) fun _ => .pure _
      | none => exact .pure _

theorem deleteLabel_failsOnly (label : Label) :
    (deleteLabel app label).FailsOnly app told (Configured told) := by
  refine .bind (.ofExcept fun _ => App.configured_of_machine) fun m =>
    inTransaction_failsOnly fun n => ?_
  refine (Attempt.FailsOnly.bind (.ofStore _) fun row => ?_) _
  split
  · exact .throw (by rintro ⟨⟩)
  · split
    · exact .pure _
    · exact .bind (.bind (.ofStore _) fun _ => .pure _) fun _ =>
        .bind (.ofStore _) fun _ => .bind (.ofStore _) fun _ => .pure _

/-- The demand of a state that the machine of a label lacks. -/
inductive Operation.Misnamed (app : App) : Operation → EngineError → Prop
  | force {label : Label} {state : String} {m : Machine}
      (hmachine : app.machine label.machine = .ok m) (hunknown : m.state? state = none) :
      Misnamed app (.force label state) (.unknownState m.name state)

/-- Demands fail for a name that is theirs, or for what was passed on. -/
theorem forceLabel_failsOnly (happ : app.Built) (label : Label) (state : String) :
    (forceLabel app label state).FailsOnly app told fun error => error.Misconfigured →
      (Operation.force label state).Misnamed app error ∨ error.PassesOn told := by
  have hwiden : ∀ error : EngineError, Configured told error → error.Misconfigured →
      (Operation.force label state).Misnamed app error ∨ error.PassesOn told :=
    fun _ hconfigured hmistake => .inr (hconfigured hmistake)
  refine .ofExcept_bind (fun _ h => hwiden _ (App.configured_of_machine h))
    fun m hmachine => ?_
  refine .bind (.ofExcept fun cause hcause _ => ?_) fun _ => ?_
  · unfold Machine.stateNamed at hcause
    split at hcause
    · cases hcause
    next hunknown => cases hcause; exact .inl (.force hmachine hunknown)
  · refine .bind (inTransaction_failsOnly fun n => ?_) fun _ =>
      .bind ((drain_failsOnly happ label).mono hwiden) fun _ => .pure _
    exact (Attempt.FailsOnly.bind ((lockLive_failsOnly label).mono hwiden) fun _ =>
      .bind (.ofStore _) fun _ => .pure _) _

theorem readLive_failsOnly (label : Label) :
    (readLive label).FailsOnly app told (Configured told) := by
  refine .bind (.ofStore _) fun row => ?_
  split
  · exact .throw (by rintro ⟨⟩)
  · split
    · exact .throw (by rintro ⟨⟩)
    · exact .pure _

/-- **Operations.**  No operation fails for a mistake in the configuration, unless it
demands a state that the machine of its label lacks, or passes on that a feed is
missing. -/
theorem Operation.perform_failsOnly (happ : app.Built) (op : Operation) :
    (op.perform app).FailsOnly app told fun error => error.Misconfigured →
      op.Misnamed app error ∨ error.PassesOn told := by
  have hwiden : ∀ error : EngineError, Configured told error → error.Misconfigured →
      op.Misnamed app error ∨ error.PassesOn told :=
    fun _ hconfigured hmistake => .inr (hconfigured hmistake)
  cases op with
  | create label metadata =>
      exact .bind ((createLabel_failsOnly label metadata).mono hwiden) fun _ => .pure _
  | update label patch =>
      exact .bind ((updateLabel_failsOnly label patch).mono hwiden) fun _ => .pure _
  | delete label =>
      exact .bind ((deleteLabel_failsOnly label).mono hwiden) fun _ => .pure _
  | force label state =>
      exact .bind (forceLabel_failsOnly happ label state) fun _ => .pure _
  | metadata label =>
      refine .bind (Attempt.FailsOnly.mono ?_ hwiden) fun _ => .pure _
      exact .bind (.ofExcept fun _ => App.configured_of_machine) fun _ =>
        .bind (readLive_failsOnly label) fun _ => .pure _
  | state label =>
      refine .bind (Attempt.FailsOnly.mono ?_ hwiden) fun _ => .pure _
      refine .bind (.ofExcept fun _ => App.configured_of_machine) fun _ =>
        .bind (readLive_failsOnly label) fun _ =>
          .bind (.bind (.ofStore _) fun _ => .pure _)
            fun history => ?_
      split
      · exact .pure _
      · exact .throw (by rintro ⟨⟩)
  | history label =>
      refine .bind (Attempt.FailsOnly.mono ?_ hwiden) fun _ => .pure _
      refine .bind (.ofExcept fun _ => App.configured_of_machine) fun _ =>
        .bind (.ofStore _) fun row => ?_
      split
      · exact .throw (by rintro ⟨⟩)
      · exact .bind (.ofStore _) fun _ => .pure _
  | drain label => exact .bind ((drain_failsOnly happ label).mono hwiden) fun _ => .pure _
  | list machine =>
      refine .bind (Attempt.FailsOnly.mono ?_ hwiden) fun _ => .pure _
      exact .bind (.ofExcept fun _ => App.configured_of_machine) fun _ => .ofStore _

/-! ## Jobs -/

/-- Batches contain every failure. -/
theorem runBatch_failsOnly (m : Machine) (state : State) (selection : Selection)
    (stop : Work Bool) :
    (runBatch app m state selection stop).FailsOnly app told allowed := by
  unfold runBatch
  split
  · exact .pure _
  · exact .bind (.ofStore _) fun _ => .ofWork _

/-- The jobs of a state are about it, and those that wait for a trigger have its
cadence. -/
theorem mem_stateJobs {settings : Settings} {machine : String} {state : State}
    {job : Agenda.Job} {cadence : Agenda.Cadence}
    (h : (job, cadence) ∈ Agenda.stateJobs settings machine state) :
    job.machine = machine ∧ job.state = state.name ∧
      ∀ trigger, job.kind = .trigger trigger →
        Agenda.triggerCadence? settings trigger = some cadence := by
  unfold Agenda.stateJobs at h
  split at h
  · cases h
  · cases state with
    | action action =>
        cases List.mem_singleton.1 h
        exact ⟨rfl, rfl, by simp⟩
    | gate gate =>
        rcases List.mem_append.1 h with htrigger | hretry
        · obtain ⟨trigger, -, hcadence⟩ := List.mem_filterMap.1 htrigger
          obtain ⟨_, hcadence, heq⟩ := Option.map_eq_some_iff.1 hcadence
          cases heq
          refine ⟨rfl, rfl, ?_⟩
          rintro other hkind
          cases hkind
          exact hcadence
        · split at hretry
          · cases List.mem_singleton.1 hretry
            exact ⟨rfl, rfl, by simp⟩
          · cases hretry

/-- A configured job is about a state that the application finds. -/
theorem state_of_applicationJobs (happ : app.Built) {job : Agenda.Job}
    {cadence : Agenda.Cadence} (h : (job, cadence) ∈ Agenda.applicationJobs app) :
    ∃ m state, app.machine job.machine = .ok m ∧ m.stateNamed job.state = .ok state := by
  obtain ⟨⟨name, m⟩, hentry, hstates⟩ := List.mem_flatMap.1 h
  obtain ⟨state, hstate, hjob⟩ := List.mem_flatMap.1 hstates
  obtain ⟨hmachine, hname, -⟩ := mem_stateJobs hjob
  obtain ⟨rfl, hfound⟩ := happ.machine_of_mem hentry
  refine ⟨m, state, hmachine ▸ hfound, ?_⟩
  simp [Machine.stateNamed, hname, (happ.machine hfound).1.state?_of_mem hstate]

/-- A configured job does not fail. -/
theorem runJob_failsOnly (happ : app.Built) {job : Agenda.Job} {cadence : Agenda.Cadence}
    (h : (job, cadence) ∈ Agenda.applicationJobs app) (window : Window)
    (stop : Work Bool) :
    (Agenda.runJob app job window stop).FailsOnly app told fun _ => False := by
  obtain ⟨m, state, hmachine, hstate⟩ := state_of_applicationJobs happ h
  refine .ofExcept_bind (fun cause hcause => ?_) fun found hfound => ?_
  · cases hmachine.symm.trans hcause
  obtain rfl := Except.ok.inj (hmachine.symm.trans hfound)
  refine .ofExcept_bind (fun cause hcause => ?_) fun found hfound => ?_
  · cases hstate.symm.trans hcause
  · split
    · exact runBatch_failsOnly _ _ _ _
    · exact runBatch_failsOnly _ _ _ _
    · split
      · exact .pure _
      · exact runBatch_failsOnly _ _ _ _
    · split
      · exact runBatch_failsOnly _ _ _ _
      · exact .pure _

end Turnstile
