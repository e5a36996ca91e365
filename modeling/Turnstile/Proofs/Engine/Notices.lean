import Turnstile.Agenda.Poll
import Turnstile.Proofs.Engine.Conversation
import Turnstile.Proofs.Engine.Tokens

/-!
# Notices come in pairs

Whoever watches is given notice when a fetch, a delivery or a job starts and when it has
finished.  `Paired` is the grammar of conversations in which these notices fit: each
fetch and each delivery stands between its two notices, the second of which tells how
this very call was answered, and no other notice is given.  In `JobNoticed` a job adds
its own notices around such a conversation.

`Work.Says` says of work that all its conversations, however they are answered, have a
shape.  It composes with the work, so each function of the engine has one lemma; no
failure leaves a function before its second notice.  `notices_paired` states the outcome
for calls, for workers and for whole runs.
-/

set_option autoImplicit false

namespace Turnstile

open Time (DateTime)

/-! ## The grammar of notices -/

/-- Why a fetch has failed, if it has. -/
def fetchError? : Except FeedError Value → Option FeedError
  | .ok _ => none
  | .error error => some error

/-- No notice is given, and nothing is fetched or delivered. -/
def Request.Plain : Request → Prop
  | .notify _ => False
  | .fetch _ => False
  | .deliver _ => False
  | _ => True

/-- A notice that was given. -/
def noticed (notice : Notice) : Exchange := ⟨.notify notice, ()⟩

/-- Every fetch and every delivery stands between the notices of its start and of its
finish, and there are no other notices. -/
inductive Paired : List Exchange → Prop
  | nil : Paired []
  | plain {r : Request} {answer : r.Answer} {talk : List Exchange} (hplain : r.Plain)
      (more : Paired talk) :
      Paired (⟨r, answer⟩ :: talk)
  | fetch {machine feed url : String} {answer : Except FeedError Value}
      {talk : List Exchange} (more : Paired talk) :
      Paired (noticed (.feedStart machine feed url) :: ⟨.fetch url, answer⟩ ::
        noticed (.feedFinish machine feed url (fetchError? answer)) :: talk)
  | delivery {machine state : String} {delivery : Delivery} {answer : Delivered}
      {talk : List Exchange} (more : Paired talk) :
      Paired (noticed (.webhookStart machine state delivery.url) ::
        ⟨.deliver delivery, answer⟩ ::
          noticed (.webhookFinish machine state delivery.url answer) :: talk)

/-- The notices of a job stand around a conversation in which all others are paired. -/
def JobNoticed (name : String) (talk : List Exchange) : Prop :=
  ∃ inner, Paired inner ∧
    talk = noticed (.jobStart name) :: inner ++ [noticed (.jobFinish name)]

variable {α β : Type} {front back talk : List Exchange}

/-- Talk that is paired stays so when more of the kind is appended. -/
theorem Paired.append (hfront : Paired front) (hback : Paired back) :
    Paired (front ++ back) := by
  induction hfront with
  | nil => exact hback
  | plain hplain _ ih => exact .plain hplain ih
  | fetch _ ih => exact .fetch ih
  | delivery _ ih => exact .delivery ih

/-! ## What work says -/

/-- However it is answered, what was said when the work is over has the shape. -/
def Work.Says (shape : List Exchange → Prop) (work : Work α) : Prop :=
  ∀ talk a, work.Leads talk (.done a) → shape talk

/-- Work pairs its notices. -/
abbrev Work.Pairs (work : Work α) : Prop := work.Says Paired

/-- An attempt pairs its notices, also if it fails. -/
abbrev Attempt.Pairs (attempt : Attempt α) : Prop := attempt.run.Says Paired

theorem says_pure {shape : List Exchange → Prop} {a : α} (h : shape []) :
    (pure a : Work α).Says shape := by
  intro talk b hleads
  obtain ⟨rfl, -⟩ := Work.leads_done.1 hleads
  exact h

/-- A single request is all that is said. -/
theorem says_request {shape : List Exchange → Prop} {r : Request}
    (h : ∀ answer : r.Answer, shape [⟨r, answer⟩]) : (Work.request r).Says shape := by
  intro talk a hleads
  rcases Work.leads_ask.1 hleads with ⟨-, hnever⟩ | ⟨answer, more, rfl, hmore⟩
  · cases hnever
  · obtain ⟨rfl, -⟩ := Work.leads_done.1 hmore
    exact h answer

/-- Work in sequence says what its parts say. -/
theorem says_bind {shape first second : List Exchange → Prop} {work : Work α}
    {next : α → Work β}
    (happend : ∀ {front back}, first front → second back → shape (front ++ back))
    (hfirst : work.Says first) (hnext : ∀ a, (next a).Says second) :
    (work >>= next).Says shape := by
  intro talk b hleads
  obtain ⟨a, front, back, rfl, hfront, hback⟩ := Work.leads_bind_done hleads
  exact happend (hfirst front a hfront) (hnext a back b hback)

namespace Work.Pairs

theorem pure (a : α) : (Pure.pure a : Work α).Pairs := says_pure .nil

theorem request {r : Request} (hplain : r.Plain) : (Work.request r).Pairs :=
  says_request fun _ => .plain hplain .nil

theorem bind {work : Work α} {next : α → Work β} (hfirst : work.Pairs)
    (hnext : ∀ a, (next a).Pairs) :
    (work >>= next).Pairs := says_bind Paired.append hfirst hnext

theorem tellLog (event : LogEvent) : (tellLog event).Pairs := request trivial

theorem stopRequested : (Work.request .stopRequested).Pairs := request trivial

end Work.Pairs

namespace Attempt.Pairs

theorem pure (a : α) : (Pure.pure a : Attempt α).Pairs :=
  Work.Pairs.pure (Except.ok a : Except EngineError α)

theorem throw (error : EngineError) : (MonadExcept.throw error : Attempt α).Pairs :=
  Work.Pairs.pure (Except.error error : Except EngineError α)

theorem bind {first : Attempt β} {next : β → Attempt α} (hfirst : first.Pairs)
    (hnext : ∀ b, (next b).Pairs) : (first >>= next).Pairs := by
  rw [Attempt.Pairs, ExceptT.run_bind]
  refine Work.Pairs.bind hfirst fun result => ?_
  cases result with
  | ok b => exact hnext b
  | error error => exact .pure _

theorem ofStore (request : StoreRequest) : (Attempt.ofStore request).Pairs :=
  Work.Pairs.bind (.request trivial) fun answer => by cases answer <;> exact .pure _

theorem ofWork {work : Work α} (h : work.Pairs) : (Attempt.ofWork work).Pairs :=
  Work.Pairs.bind h fun _ => .pure _

theorem ofExcept {ε : Type} {wrap : ε → EngineError} {result : Except ε α} :
    (Attempt.ofExcept wrap result).Pairs := Work.Pairs.pure _

/-- A transaction says nothing of its own to whoever watches. -/
theorem inTransaction {attempt : Attempt α} (h : attempt.Pairs) :
    (inTransaction attempt).Pairs := by
  refine Work.Pairs.bind (.request trivial) fun begun => ?_
  cases begun with
  | error refusal => exact .pure _
  | ok _ =>
      refine Work.Pairs.bind h fun result => ?_
      cases result with
      | ok a =>
          refine Work.Pairs.bind (.request trivial) fun ended => ?_
          cases ended <;> exact .pure _
      | error error =>
          refine Work.Pairs.bind (.request trivial) fun ended => ?_
          cases ended with
          | ok _ => exact .pure _
          | error refusal => exact Work.Pairs.bind (.tellLog _) fun _ => .pure _

end Attempt.Pairs

/-! ## Fetches and deliveries -/

variable {app : App} {m : Machine} {label : Label}

/-- **Fetches.**  Each feed is fetched between its notices, also the one that fails. -/
theorem pairs_gatherFeeds (names : List String) (context : Context) :
    (gatherFeeds m context names).Pairs := by
  induction names generalizing context with
  | nil => exact .pure _
  | cons name rest ih =>
      rw [gatherFeeds]
      split
      · exact .pure _
      next feed hfeed =>
        intro talk result hleads
        rcases Work.leads_ask.1 hleads with ⟨-, hnever⟩ | ⟨_, asked, rfl, hasked⟩
        · cases hnever
        rcases Work.leads_ask.1 hasked
          with ⟨-, hnever⟩ | ⟨answer, answered, rfl, hanswered⟩
        · cases hnever
        cases answer with
        | error error =>
            rcases Work.leads_ask.1 hanswered with ⟨-, hnever⟩ | ⟨_, told, rfl, htold⟩
            · cases hnever
            obtain ⟨rfl, -⟩ := Work.leads_done.1 htold
            exact .fetch .nil
        | ok document =>
            rcases Work.leads_ask.1 hanswered with ⟨-, hnever⟩ | ⟨_, told, rfl, htold⟩
            · cases hnever
            exact .fetch (ih _ told result htold)

/-- **Deliveries.**  A webhook is delivered between its notices, whatever it answers. -/
theorem pairs_deliver (action : Action) (metadata : Value) (entry : Entry) :
    (deliver m action label metadata entry).Pairs := by
  intro talk result hleads
  rcases Work.leads_ask.1 hleads with ⟨-, hnever⟩ | ⟨_, asked, rfl, hasked⟩
  · cases hnever
  rcases Work.leads_ask.1 hasked with ⟨-, hnever⟩ | ⟨answer, answered, rfl, hanswered⟩
  · cases hnever
  rcases Work.leads_ask.1 hanswered with ⟨-, hnever⟩ | ⟨_, told, rfl, htold⟩
  · cases hnever
  obtain ⟨rfl, -⟩ := Work.leads_done.1 htold
  exact @Paired.delivery m.name action.name ⟨action.webhook, _, _, _⟩ answer [] .nil

/-! ## Steps and drains -/

/-- No notice is given of a lock. -/
theorem pairs_lockLive (label : Label) : (lockLive label).Pairs := by
  refine .bind (.ofStore _) fun row => ?_
  split
  · exact .throw _
  · split
    · exact .throw _
    · exact .bind (.bind (.ofStore _) fun _ => .pure _) fun _ => .pure _

/-- No notice is given of leaving a state. -/
theorem pairs_leave (source : String) (route : Route) (context : Context) :
    (leave label source route context).Pairs :=
  .bind .ofExcept fun _ => .bind (.ofStore _) fun _ => .pure _

theorem pairs_markProcessed (row : Record) : (markProcessed row).Pairs := by
  unfold markProcessed
  split
  · exact .pure _
  · exact .ofStore _

theorem pairs_stepGate (gate : Gate) : (stepGate m gate label).Pairs := by
  refine .bind (pairs_lockLive label) fun live => ?_
  obtain ⟨row, history⟩ := live
  dsimp only
  split
  · exact .pure _
  refine .bind (pairs_markProcessed row) fun _ => ?_
  split
  · exact .pure _
  refine .bind (.ofWork (.request trivial)) fun now =>
    .bind (.ofWork (pairs_gatherFeeds _ _)) fun gathered => .bind .ofExcept fun context =>
    .bind .ofExcept fun passed => ?_
  split
  · exact pairs_leave _ _ _
  · exact .pure _

/-- The step of an action gives notice of its delivery. -/
theorem pairs_stepAction (action : Action) : (stepAction app m action label).Pairs := by
  refine .bind (pairs_lockLive label) fun live => ?_
  obtain ⟨row, history⟩ := live
  dsimp only
  split
  · exact .pure _
  split
  · exact .pure _
  split
  · exact .throw _
  refine .bind (.ofWork (pairs_deliver _ _ _)) fun result => ?_
  cases result with
  | success => exact pairs_leave _ _ _
  | retry => exact .pure _
  | fail => exact .pure _

theorem pairs_stepIn (state : State) : (stepIn app m state label).Pairs := by
  cases state with
  | gate gate => exact pairs_stepGate gate
  | action action => exact pairs_stepAction action

/-- Steps pair their notices. -/
theorem pairs_stepCurrent : (stepCurrent app m label).Pairs := by
  refine .bind (pairs_lockLive label) fun live => ?_
  obtain ⟨row, history⟩ := live
  dsimp only
  split
  · exact .throw _
  · exact .bind .ofExcept fun state => pairs_stepIn state

/-- **Drains.**  One step after the other. -/
theorem pairs_drainFrom (limit remaining : Nat) :
    (drainFrom app m label limit remaining).Pairs := by
  induction remaining with
  | zero => exact .bind (.ofWork (.tellLog _)) fun _ => .pure _
  | succ remaining ih =>
      refine Work.Pairs.bind (Attempt.Pairs.inTransaction pairs_stepCurrent)
        fun result => ?_
      split
      · exact ih
      · exact .pure _
      · exact .pure _
      · exact .pure _

/-- Drains pair their notices. -/
theorem pairs_drain (app : App) (label : Label) : (drain app label).Pairs :=
  .bind .ofExcept fun _ => pairs_drainFrom _ _

/-! ## Operations -/

/-- Creations pair their notices, which are those of their drain. -/
theorem pairs_createLabel (metadata : Value) :
    (createLabel app label metadata).Pairs := by
  refine .bind .ofExcept fun m => ?_
  split
  · exact .throw _
  refine .bind .ofExcept fun first =>
    .bind (.inTransaction ?_) fun _ => .bind (.ofWork ?_) fun _ => .pure _
  · refine .bind (.ofStore _) fun row => ?_
    split
    · exact .throw _
    · exact .bind (.ofStore _) fun _ => .bind (.ofStore _) fun _ => .pure _
  · refine .bind (pairs_drain app label) fun result => ?_
    split
    · exact .pure _
    · exact .pure _
    · exact .tellLog _

theorem pairs_drainUpdated : (drainUpdated app label).Pairs := by
  refine .bind (pairs_drain app label) fun result => ?_
  split
  · exact .pure _
  · exact .tellLog _

theorem pairs_takeToGate (gate : Gate) : (takeToGate app m label gate).Pairs := by
  refine .bind (Attempt.Pairs.inTransaction (pairs_stepIn _)) fun result => ?_
  split
  · exact pairs_drainUpdated
  · exact .pure _
  · exact .pure _
  · exact .tellLog _

/-- Updates pair theirs. -/
theorem pairs_updateLabel (patch : Value) : (updateLabel app label patch).Pairs := by
  refine .bind .ofExcept fun m => ?_
  split
  · exact .throw _
  refine .bind (.inTransaction ?_) fun ⟨merged, gate?⟩ => ?_
  · exact .bind (pairs_lockLive label) fun _ => .bind (.ofStore _) fun _ => .pure _
  · cases gate? with
    | some gate => exact .bind (.ofWork (pairs_takeToGate gate)) fun _ => .pure _
    | none => exact .pure _

theorem pairs_deleteLabel : (deleteLabel app label).Pairs := by
  refine .bind .ofExcept fun m => .inTransaction (.bind (.ofStore _) fun row => ?_)
  split
  · exact .throw _
  · split
    · exact .pure _
    · exact .bind (.bind (.ofStore _) fun _ => .pure _) fun _ =>
        .bind (.ofStore _) fun _ => .bind (.ofStore _) fun _ => .pure _

/-- Demands pair theirs. -/
theorem pairs_forceLabel (state : String) : (forceLabel app label state).Pairs := by
  refine .bind .ofExcept fun m =>
    .bind .ofExcept fun _ => .bind (.inTransaction ?_) fun _ =>
      .bind (pairs_drain app label) fun _ => .pure _
  exact .bind (pairs_lockLive label) fun _ => .bind (.ofStore _) fun _ => .pure _

theorem pairs_readLive : (readLive label).Pairs := by
  refine .bind (.ofStore _) fun row => ?_
  split
  · exact .throw _
  · split
    · exact .throw _
    · exact .pure _

theorem pairs_readHistory : (readHistory label).Pairs :=
  .bind (.ofStore _) fun _ => .pure _

theorem pairs_labelState : (labelState app label).Pairs := by
  refine .bind .ofExcept fun _ =>
    .bind pairs_readLive fun _ => .bind pairs_readHistory fun history => ?_
  split
  · exact .pure _
  · exact .throw _

theorem pairs_labelHistory : (labelHistory app label).Pairs := by
  refine .bind .ofExcept fun _ => .bind (.ofStore _) fun row => ?_
  split
  · exact .throw _
  · exact pairs_readHistory

/-- **Operations.** -/
theorem Operation.perform_pairs (app : App) (op : Operation) :
    (op.perform app).Pairs := by
  cases op with
  | create label metadata => exact .bind (pairs_createLabel metadata) fun _ => .pure _
  | update label patch => exact .bind (pairs_updateLabel patch) fun _ => .pure _
  | delete label => exact .bind pairs_deleteLabel fun _ => .pure _
  | force label state => exact .bind (pairs_forceLabel state) fun _ => .pure _
  | metadata label =>
      exact .bind (.bind .ofExcept fun _ => .bind pairs_readLive fun _ => .pure _)
        fun _ => .pure _
  | state label => exact .bind pairs_labelState fun _ => .pure _
  | history label => exact .bind pairs_labelHistory fun _ => .pure _
  | drain label => exact .bind (pairs_drain app label) fun _ => .pure _
  | list machine => exact .bind (.bind .ofExcept fun _ => .ofStore _) fun _ => .pure _

/-! ## Batches and jobs -/

theorem pairs_visit (state : State) : (visit app m state label).Pairs := by
  refine .bind (Attempt.Pairs.inTransaction (pairs_stepIn state)) fun result => ?_
  split
  · refine .bind (.bind (pairs_drain app label) fun drained => ?_) fun _ => .pure _
    split
    · exact .pure _
    · exact .pure _
    · exact .bind (.tellLog _) fun _ => .pure _
  · exact .pure _
  · exact .pure _
  · exact .pure _
  · exact .bind (.tellLog _) fun _ => .pure _

/-- **Batches.**  What goes wrong with one label ends its visit, and the next one
begins. -/
theorem pairs_visitAll {stop : Work Bool} (hstop : stop.Pairs) (state : State)
    (summary : BatchSummary) (names : List String) :
    (visitAll app m state stop summary names).Pairs := by
  induction names generalizing summary with
  | nil => exact .pure _
  | cons name rest ih =>
      refine .bind hstop fun stopped => ?_
      split
      · exact .pure _
      · exact .bind (pairs_visit state) fun visited => ih _

/-- The notices of a batch are those of its visits. -/
theorem pairs_runBatch {stop : Work Bool} (hstop : stop.Pairs) (state : State)
    (selection : Selection) :
    (runBatch app m state selection stop).Pairs := by
  unfold runBatch
  split
  · exact .pure _
  · exact .bind (.ofStore _) fun _ => .ofWork (pairs_visitAll hstop _ _ _)

/-- The notices within a job are those of its batch. -/
theorem pairs_runJob {stop : Work Bool} (hstop : stop.Pairs) (job : Agenda.Job)
    (window : Time.Window) :
    (Agenda.runJob app job window stop).Pairs := by
  refine .bind .ofExcept fun m => .bind .ofExcept fun state => ?_
  split
  · exact pairs_runBatch hstop _ _
  · exact pairs_runBatch hstop _ _
  · split
    · exact .pure _
    · exact pairs_runBatch hstop _ _
  · split
    · exact pairs_runBatch hstop _ _
    · exact .pure _

/-- **Calls.** -/
theorem Call.perform_pairs (app : App) (call : Call) : (call.perform app).Pairs := by
  cases call with
  | operation op => exact .bind (op.perform_pairs app) fun _ => .pure _
  | batch machine state selection =>
      exact .bind (.bind .ofExcept fun m => .bind .ofExcept fun s =>
        pairs_runBatch .stopRequested s selection) fun _ => .pure _
  | job due window =>
      exact .bind (pairs_runJob .stopRequested due window) fun _ => .pure _

/-- **Jobs.**  The notices of a job stand around all that its batch says, also if the
job fails. -/
theorem says_work (app : App) (due : Agenda.DueJob Agenda.Job) :
    (Agenda.work app due).Says (JobNoticed due.job.text) := by
  have hstart :
      (tell (.jobStart due.job.text)).Says (· = [noticed (.jobStart due.job.text)]) :=
    says_request fun _ => rfl
  have hrun :
      (Agenda.runJob app due.job due.window (Work.request .stopRequested)).Pairs :=
    pairs_runJob .stopRequested due.job due.window
  let closing (talk : List Exchange) : Prop :=
    ∃ inner, Paired inner ∧ talk = inner ++ [noticed (.jobFinish due.job.text)]
  have hclose : ∀ {front back}, Paired front → closing back →
      closing (front ++ back) := by
    rintro front _ hfront ⟨inner, hinner, rfl⟩
    exact ⟨front ++ inner, hfront.append hinner, (List.append_assoc ..).symm⟩
  have hclosing : (tell (.jobFinish due.job.text)).Says closing :=
    says_request fun _ => ⟨[], .nil, rfl⟩
  refine says_bind ?_ hstart fun _ => says_bind hclose hrun fun result => ?_
  · rintro _ _ rfl ⟨inner, hinner, rfl⟩
    exact ⟨inner, hinner, rfl⟩
  · cases result with
    | ok summary => exact hclosing
    | error error => exact says_bind hclose (Work.Pairs.tellLog _) fun _ => hclosing

/-! ## Conversations that are not over -/

/-- Every request can be answered. -/
theorem Request.answerable (r : Request) : Nonempty r.Answer := by
  cases r with
  | store request => exact ⟨.error (.backend "gone")⟩
  | deliver delivery => exact ⟨.success⟩
  | fetch url => exact ⟨.ok .null⟩
  | now => exact ⟨⟨0, ⟨0, 0⟩⟩⟩
  | notify notice => exact ⟨()⟩
  | log event => exact ⟨()⟩
  | stopRequested => exact ⟨true⟩
  | nextTick => exact ⟨false⟩

/-- All work can be brought to an end. -/
theorem Work.leads_end (work : Work α) : ∃ talk a, work.Leads talk (.done a) := by
  induction work with
  | done a => exact ⟨[], a, .here _⟩
  | ask r next ih =>
      obtain ⟨answer⟩ := r.answerable
      obtain ⟨talk, a, hleads⟩ := ih answer
      exact ⟨⟨r, answer⟩ :: talk, a, .said hleads⟩

/-- However it is answered, all that was said so far begins something that has the
shape, and has the shape once the work is over. -/
def Work.Observes (shape : List Exchange → Prop) (work : Work α) : Prop :=
  ∀ talk rest, work.Leads talk rest →
    (∃ more, shape (talk ++ more)) ∧ ∀ a, rest = .done a → shape talk

/-- What is so of all that work says is so of each of its runs. -/
theorem Work.Says.observes {shape : List Exchange → Prop} {work : Work α}
    (h : work.Says shape) :
    work.Observes shape := by
  intro talk rest hleads
  obtain ⟨more, a, hend⟩ := rest.leads_end
  refine ⟨⟨more, h _ a (hleads.trans hend)⟩, ?_⟩
  rintro a rfl
  exact h talk a hleads

/-- **Notices come in pairs**, in every application and whatever the world answers:

* in a call, be it an operation, a batch or a job, each fetch and each delivery stands
  between its two notices, the second of which tells how it was answered, and no other
  notices are given;
* a worker who was given a job gives the job's own notices around such a conversation;
* and in a run, where calls are interleaved and some vanish, this is true of what is
  said with each client. -/
theorem notices_paired (app : App) :
    (∀ call : Call, (call.perform app).run.Observes Paired) ∧
    (∀ due, (Agenda.work app due).Observes (JobNoticed due.job.text)) ∧
    ∀ past s client call rest, Run app past s → s.tasks client = some ⟨call, rest⟩ →
      (∃ more, Paired (exchangesOf client past ++ more)) ∧
        ∀ result, rest = some (.done result) → Paired (exchangesOf client past) := by
  have hcall : ∀ call : Call, (call.perform app).run.Observes Paired := fun call =>
    Work.Says.observes (call.perform_pairs app)
  refine ⟨hcall, fun due => (says_work app due).observes, ?_⟩
  intro past s client call rest run htask
  obtain ⟨left, hleads, hleft⟩ := run.conversation htask
  obtain ⟨hbegun, hover⟩ := hcall call _ _ hleads
  exact ⟨hbegun, fun result hresult => hover result (hleft _ hresult).symm⟩

namespace Postroom

/-- The job that delivers letters again. -/
def retry : Agenda.DueJob Agenda.Job := ⟨⟨"letters", "sent", .actionRetry⟩, ⟨now, now⟩⟩

/-- The letter is there. -/
def arrival : Entry := ⟨.creation letter "sent", 1, now⟩

/-- What the job says when the letter is refused. -/
def refused : List Exchange :=
  [noticed (.jobStart retry.job.text),
    ⟨.store (.rowsInState "letters" "sent"), .ok [⟨letter, .obj [], false, true⟩]⟩,
    ⟨.stopRequested, false⟩, ⟨.store .begin, .ok ()⟩,
    ⟨.store (.lock letter), .ok (some ⟨letter, .obj [], false, true⟩)⟩,
    ⟨.store (.ownHistory letter), .ok [arrival]⟩,
    noticed (.webhookStart "letters" "sent" "https://example.com"),
    ⟨.deliver
      (Action.delivery ⟨"sent", "https://example.com", .always "kept"⟩ letter
        (.obj []) arrival),
      .fail⟩,
    noticed (.webhookFinish "letters" "sent" "https://example.com" .fail),
    ⟨.store .commit, .ok ()⟩, noticed (.jobFinish retry.job.text)]

end Postroom

open Postroom in
/-- A letter is refused, and whoever watches is told so before the job has finished. -/
theorem notices_paired_postroom : (Agenda.work postroom retry).Leads refused (.done ()) ∧
    JobNoticed retry.job.text refused ∧
    Run postroom written.past written.system ∧
    (exchangesOf (.worker 0) written.past).length = 14 ∧
    ∃ more, Paired (exchangesOf (.worker 0) written.past ++ more) := by
  obtain ⟨-, hjobs, hruns⟩ := notices_paired postroom
  have hleads : (Agenda.work postroom retry).Leads refused (.done ()) := by
    unfold refused
    with_unfolding_all
      exact .said (.said (.said (.said (.said (.said
        (.said (.said (.said (.said (.said (.here _)))))))))))
  have run := chronicle_written.run
  have hsome : (written.system.tasks (.worker 0)).isSome = true := by decide +kernel
  obtain ⟨⟨call, rest⟩, htask⟩ := Option.isSome_iff_exists.1 hsome
  exact ⟨hleads, (hjobs retry refused _ hleads).2 () rfl, run, by decide +kernel,
    (hruns _ _ _ _ _ run htask).1⟩

end Turnstile
