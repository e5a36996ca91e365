import Turnstile.Proofs.Engine.Chronicle
import Turnstile.Proofs.Engine.Conversation
import Turnstile.Proofs.Engine.Failures
import Turnstile.Proofs.Engine.Gathering
import Turnstile.Proofs.Engine.Retries

/-!
# Built applications are configured

A call is put together from smaller attempts: a creation drains its label, a batch
takes one step for each of its labels.  `Ends` says that a client has made an
attempt as a part of its call, and how the attempt has ended, whatever the rest of
the call makes of it.

While a part of a call is worked on, its client is answered as the contract of the call
says (`Chronicle.part`).  So what `Attempt.FailsOnly` says of an attempt is true
wherever it is made in a run, and no run of built machines meets a mistake in their
configuration, unless whoever fetches documents makes one up (`Chronicle.configured`).
-/

set_option autoImplicit false

namespace Turnstile

open Time (DateTime Window)

variable {app : App} {moments : List Moment} {past : List Happening}
  {s before after : System}
variable {happening : Happening} {client : Client} {call : Call} {α : Type}
variable {told : String → Prop}

/-! ## Parts of calls -/

/-- A client has made an attempt as a part of its call, and the attempt has ended so. -/
def Ends (moments : List Moment) (client : Client) (attempt : Attempt α)
    (result : Except EngineError α) : Prop :=
  ∃ earlier m since call next, moments = earlier ++ m :: since ∧
    m.after.tasks client = some ⟨call, some (attempt.run.bind next)⟩ ∧
    attempt.run.Leads (exchangesOf client (since.map Moment.happening)) (.done result)

/-- A chronicle keeps all that has happened. -/
theorem Chronicle.past_eq (chronicle : Chronicle app moments past s) :
    past = moments.map Moment.happening := by
  induction chronicle with
  | empty => rfl
  | step _ _ ih => simp [ih]

/-- What was said with a client. -/
theorem mem_exchangesOf {exchange : Exchange} :
    exchange ∈ exchangesOf client past ↔ .said client exchange ∈ past := by
  simp only [exchangesOf, List.mem_filterMap]
  constructor
  · rintro ⟨happening, hin, hsome⟩
    cases happening with
    | said other said =>
        simp only [Happening.exchange?] at hsome
        split at hsome <;> cases hsome
        next hclient => exact hclient ▸ hin
    | _ => cases hsome
  · exact fun hin => ⟨_, hin, by simp [Happening.exchange?]⟩

/-- **Onlookers.**  What a client does not do itself it does not notice. -/
theorem Faithful.unnoticed (h : Faithful app past before)
    (hstep : System.Step app before happening after) {task : Task}
    (htask : before.tasks client = some task)
    (hsaid : ∀ exchange, happening ≠ .said client exchange)
    (hgone : happening ≠ .vanished client) :
    after.tasks client = some task ∧
      ∀ stance : Stance, stance.Agrees before.store client →
        stance.Agrees after.store client := by
  cases hstep with
  | call other made hnew =>
      have hother : client ≠ other := by
        rintro rfl
        cases htask.symm.trans hnew
      exact ⟨by simpa [System.assign, hother] using htask, fun _ hagrees => hagrees⟩
  | @say made r next answer store other now hwas hanswer =>
      have hother : client ≠ other := by
        rintro rfl
        exact hsaid _ rfl
      refine ⟨by simpa [System.assign, hother] using htask, fun stance hagrees => ?_⟩
      cases r with
      | store request => exact hagrees.frame h.sound (Store.served hanswer) hother
      | _ => cases hanswer; exact hagrees
  | @vanish other made rest hwas =>
      have hother : client ≠ other := by
        rintro rfl
        exact hgone rfl
      have hserved : Store.Served before.store other .rollback
          (before.store.rollback other) := .rolledBack
      exact ⟨by simpa [System.assign, hother] using htask,
        fun stance hagrees => hagrees.frame h.sound hserved hother⟩

/-- What is left of a part of a call: it is answered by a world that agrees with what
the client knows, as long as the call has not vanished, and no other feeds are said to
be missing. -/
structure PartLeft (app : App) (told : String → Prop) (s : System)
    (client : Client) (call : Call) (next : α → Work (Except EngineError CallResult))
    (goal : α → View → Prop) (rest : Work α) (v : View) : Prop where
  follows : rest.Follows (answering app told) goal v
  task : s.tasks client = some ⟨call, none⟩ ∨
    s.tasks client = some ⟨call, some (rest.bind next)⟩ ∧ v.stance.Agrees s.store client ∧
      (rest.bind next).Follows (protocol app call) (fun _ after => after.stance = .idle) v

section Part

variable {next : α → Work (Except EngineError CallResult)} {goal : α → View → Prop}
  {rest : Work α}
variable {v : View}

/-- What others do leaves a part of a call as it is. -/
theorem PartLeft.unnoticed (h : PartLeft app told before client call next goal rest v)
    (hfaithful : Faithful app past before)
    (hstep : System.Step app before happening after)
    (hsaid : ∀ exchange, happening ≠ .said client exchange)
    (hgone : happening ≠ .vanished client) :
    PartLeft app told after client call next goal rest v := by
  refine ⟨h.follows, ?_⟩
  rcases h.task with hvanished | ⟨htask, hagrees, hcontract⟩
  · exact .inl (hfaithful.unnoticed hstep hvanished hsaid hgone).1
  · obtain ⟨hkept, hstill⟩ := hfaithful.unnoticed hstep htask hsaid hgone
    exact .inr ⟨hkept, hstill _ hagrees, hcontract⟩

/-- A part of a call goes on with what its client is told. -/
theorem PartLeft.said {r : Request} {answer : r.Answer} {more : r.Answer → Work α}
    (h : PartLeft app told before client call next goal (.ask r more) v)
    (hfaithful : Faithful app past before)
    (hstep : System.Step app before (.said client ⟨r, answer⟩) after)
    (hanswer : Exchange.TellsOnly told ⟨r, answer⟩) :
    ∃ w, PartLeft app told after client call next goal (more answer) w := by
  cases hstep with
  | @say made _ asked _ store _ now hwas hanswered =>
      rcases h.task with hvanished | ⟨htask, hagrees, hmay, hcontract⟩
      · cases hvanished.symm.trans hwas
      · cases htask.symm.trans hwas
        obtain ⟨w, hreply, hafter, -⟩ :=
          answers hagrees hfaithful.sound hfaithful.lawful hmay hanswered
        exact ⟨w, h.follows.2 answer w ⟨hreply, hanswer⟩,
          .inr ⟨by simp [System.assign], hafter, hcontract answer w hreply⟩⟩

/-- **Parts.**  What is left of a part of a call, after all that its client was told,
ends as the whole part had to, if the client was told of no other missing feeds. -/
theorem Chronicle.part (happ : app.Built) {earlier since : List Moment}
    {m : Moment} {part : Work α}
    (chronicle : Chronicle app (earlier ++ m :: since) past s)
    (htask : m.after.tasks client = some ⟨call, some (part.bind next)⟩)
    (hpart : ∀ v, part.Follows (answering app told) goal v)
    (hleads : part.Leads (exchangesOf client (since.map Moment.happening)) rest)
    (htold : ∀ exchange ∈ exchangesOf client (since.map Moment.happening),
      exchange.TellsOnly told) :
    ∃ v, rest.Follows (answering app told) goal v := by
  suffices h : ∀ rest, part.Leads (exchangesOf client (since.map Moment.happening)) rest →
      (∀ exchange ∈ exchangesOf client (since.map Moment.happening),
        exchange.TellsOnly told) →
      ∃ v, PartLeft app told s client call next goal rest v by
    obtain ⟨v, hleft⟩ := h rest hleads htold
    exact ⟨v, hleft.follows⟩
  -- the induction is on what has happened since the part was begun
  refine chronicle.onward (P := fun since _ s => ∀ rest,
    part.Leads (exchangesOf client (since.map Moment.happening)) rest →
    (∀ exchange ∈ exchangesOf client (since.map Moment.happening),
      exchange.TellsOnly told) →
    ∃ v, PartLeft app told s client call next goal rest v) ?_ ?_
  · rintro rest hnothing -
    cases hnothing
    obtain ⟨v, -, hagrees, -, hcontract⟩ :=
      (chronicle.upTo.2.2.faithful happ).called htask
    exact ⟨v, hpart v, .inr ⟨htask, hagrees, hcontract⟩⟩
  · intro since past before happening after chronicle hstep ih rest hleads htold
    have hfaithful := chronicle.faithful happ
    rw [List.map_append, List.map_singleton] at hleads htold
    by_cases hsaid : ∃ exchange, happening = .said client exchange
    · -- only here the part goes on, and by this very answer
      obtain ⟨⟨r, answer⟩, rfl⟩ := hsaid
      rw [exchangesOf_said] at hleads htold
      obtain ⟨more, hbefore, rfl⟩ := hleads.before_last
      obtain ⟨hold, hnow⟩ := List.forall_mem_append.1 htold
      obtain ⟨v, hleft⟩ := ih _ hbefore hold
      exact hleft.said hfaithful hstep (hnow _ (List.mem_singleton.2 rfl))
    · have hunsaid : ∀ exchange, happening ≠ .said client exchange := fun exchange heq =>
        hsaid ⟨exchange, heq⟩
      rw [exchangesOf_unsaid hunsaid] at hleads htold
      obtain ⟨v, hleft⟩ := ih _ hleads htold
      by_cases hgone : happening = .vanished client
      · subst hgone
        cases hstep with
        | @vanish _ made work hwas =>
            rcases hleft.task with hvanished | ⟨htask, -⟩
            · cases hvanished.symm.trans hwas
            · cases htask.symm.trans hwas
              exact ⟨v, hleft.follows, .inl (by simp [System.assign])⟩
      · exact ⟨v, hleft.unnoticed hfaithful hstep hunsaid hgone⟩

end Part

/-- **Whole calls.**  What is left of a call is left of its work after all that its
client was told. -/
theorem Chronicle.begun {rest : Work (Except EngineError CallResult)}
    (chronicle : Chronicle app moments past s)
    (htask : s.tasks client = some ⟨call, some rest⟩) :
    ∃ earlier m since, moments = earlier ++ m :: since ∧
      m.after.tasks client = some ⟨call, some (call.perform app).run⟩ ∧
      (call.perform app).run.Leads
        (exchangesOf client (since.map Moment.happening)) rest := by
  induction chronicle generalizing rest with
  | empty => cases htask
  | @step moments past before after happening chronicle hstep ih =>
      rcases hstep.work_cases htask with
        ⟨rfl, -, rfl⟩ | ⟨r, next, answer, rfl, hwas, rfl⟩ | ⟨hwas, hsilent⟩
      · exact ⟨moments, _, [], rfl, htask, .here _⟩
      · obtain ⟨earlier, m, since, rfl, hbegun, hleads⟩ := ih hwas
        refine ⟨earlier, m, since ++ [_], List.append_assoc _ _ _, hbegun, ?_⟩
        rw [List.map_append, List.map_singleton, exchangesOf_said]
        exact hleads.trans (.said (.here _))
      · obtain ⟨earlier, m, since, rfl, hbegun, hleads⟩ := ih hwas
        refine ⟨earlier, m, since ++ [_], List.append_assoc _ _ _, hbegun, ?_⟩
        rwa [List.map_append, List.map_singleton, exchangesOf_unsaid hsilent]

/-- A call is a part of itself. -/
theorem Chronicle.ends {result : Except EngineError CallResult}
    (chronicle : Chronicle app moments past s)
    (htask : s.tasks client = some ⟨call, some (.done result)⟩) :
    Ends moments client (call.perform app) result := by
  obtain ⟨earlier, m, since, hmoments, hbegun, hleads⟩ := chronicle.begun htask
  exact ⟨earlier, m, since, call, .done, hmoments,
    hbegun.trans (by rw [Work.bind_done]), hleads⟩

/-- The draining that a client has called for is a part of its call. -/
theorem Chronicle.ends_drain {label : Label} {error : EngineError}
    (chronicle : Chronicle app moments past s)
    (htask : s.tasks client =
      some ⟨.operation (.drain label), some (.done (.error error))⟩) :
    Ends moments client (drain app label) (.error error) := by
  obtain ⟨earlier, m, since, hmoments, hbegun, hleads⟩ := chronicle.begun htask
  let finish (result : Except EngineError DrainSummary) :
      Work (Except EngineError CallResult) :=
    .done (result.map fun summary => .operation (.drained summary))
  have hcall : ((Call.operation (.drain label)).perform app).run =
      (drain app label).run.bind finish := by
    change ((drain app label).run.bind _).bind _ = _
    rw [Work.bind_bind]
    refine congrArg _ (funext fun result => ?_)
    cases result <;> rfl
  rw [hcall] at hbegun hleads
  obtain ⟨result, front, back, htalk, hfront, hback⟩ := Work.leads_bind_done hleads
  obtain ⟨rfl, hresult⟩ := Work.leads_done.1 hback
  rw [List.append_nil] at htalk
  cases result with
  | ok summary => cases hresult
  | error cause =>
      cases hresult
      exact ⟨earlier, m, since, _, finish, hmoments, hbegun, htalk ▸ hfront⟩

/-! ## No mistakes -/

/-- A client was told, when it fetched something, that a feed is not declared. -/
def ToldMissing (client : Client) (past : List Happening) (feed : String) : Prop :=
  ∃ url, .said client ⟨.fetch url, .error (.undeclared feed)⟩ ∈ past

/-- A fetch fails for its transport, its status or its body: whoever fetches documents
does not know what machines declare, and never answers that a feed is not declared. -/
def FetchedCandidly (past : List Happening) : Prop :=
  ∀ client feed, ¬ ToldMissing client past feed

/-- Nothing that a candid client was told can be passed on. -/
theorem FetchedCandidly.not_passesOn (h : FetchedCandidly past) (client : Client)
    (error : EngineError) :
    ¬ error.PassesOn (ToldMissing client past) := by
  rintro ⟨feed, htold, -⟩
  exact h client feed htold

/-- **Runs.**  Wherever an attempt is made in a run, it fails only as it is allowed to. -/
theorem Attempt.FailsOnly.ends {allowed : EngineError → Prop} {attempt : Attempt α}
    {error : EngineError} (h : attempt.FailsOnly app (ToldMissing client past) allowed)
    (happ : app.Built) (chronicle : Chronicle app moments past s)
    (hends : Ends moments client attempt (.error error)) : allowed error := by
  obtain ⟨earlier, m, since, call, next, rfl, htask, hleads⟩ := hends
  obtain ⟨v, hfollows⟩ := chronicle.part happ htask h hleads (by
    rintro exchange hexchange url feed rfl
    refine ⟨url, chronicle.past_eq ▸ ?_⟩
    rw [List.map_append, List.map_cons]
    exact List.mem_append_right _ (List.mem_cons_of_mem _ (mem_exchangesOf.1 hexchange)))
  exact hfollows error rfl

/-- **Configuration.**  In a run of built machines nothing fails for a mistake in their
configuration:

* no operation, unless it demands a state that the machine of its label lacks;
* no draining of a label, be it an operation or a part of one;
* no configured job, which does not fail at all;
* no step that a call takes on one label, be it for a batch or for an update.

What is fetched could still be answered with a feed that is not declared, and that is
passed on; if it is fetched candidly, this does not happen either. -/
theorem Chronicle.configured (happ : app.Built)
    (chronicle : Chronicle app moments past s) :
    (∀ client op error, s.tasks client =
      some ⟨.operation op, some (.done (.error error))⟩ →
      error.Misconfigured →
      op.Misnamed app error ∨ error.PassesOn (ToldMissing client past)) ∧
    (∀ client label error, Ends moments client (drain app label) (.error error) →
      error.Misconfigured → error.PassesOn (ToldMissing client past)) ∧
    (∀ client job cadence window result, (job, cadence) ∈ Agenda.applicationJobs app →
      s.tasks client = some ⟨.job job window, some (.done result)⟩ →
      ∃ summary, result = .ok summary) ∧
    (∀ client m state label error, app.machine label.machine = .ok m → state ∈ m.states →
      Ends moments client (stepOnce app m state label) (.error error) →
      error.Misconfigured → error.PassesOn (ToldMissing client past)) ∧
    (FetchedCandidly past → ∀ client (error : EngineError),
      ¬ error.PassesOn (ToldMissing client past)) := by
  refine ⟨fun client op error htask => ?_, fun client label error hends => ?_,
    fun client job cadence window result hjob htask => ?_,
    fun client m state label error hmachine hmember hends => ?_,
    FetchedCandidly.not_passesOn⟩
  · have hop :
        ((Call.operation op).perform app).FailsOnly app (ToldMissing client past) _ :=
      .bind (Operation.perform_failsOnly happ op) fun _ => .pure _
    exact hop.ends happ chronicle (chronicle.ends htask)
  · exact (drain_failsOnly happ label).ends happ chronicle hends
  · have hcall :
        ((Call.job job window).perform app).FailsOnly app (ToldMissing client past) _ :=
      .bind (runJob_failsOnly happ hjob window _) fun _ => .pure _
    cases result with
    | ok summary => exact ⟨summary, rfl⟩
    | error error => exact (hcall.ends happ chronicle (chronicle.ends htask)).elim
  · exact (stepOnce_failsOnly happ hmachine hmember).ends happ chronicle hends

/-! ## An office -/

namespace Office

/-- An application with the accounts and a waiting room. -/
def office : App := .ofMachines [accounts, waiting] {} true

theorem office_built : office.Built :=
  ⟨[accounts, waiting], {}, true, [], rfl,
    List.forall_mem_cons.2 ⟨accounts_built, List.forall_mem_singleton.2 waiting_built⟩⟩

def now : DateTime := ⟨0, ⟨0, 0⟩⟩

def customer : Label := ⟨"a", "accounts"⟩

/-- A customer comes; both feeds of the gate are fetched. -/
def opened : Story :=
  (Story.call {} office (.worker 0) (.operation (.create customer (.obj [])))).drive
    (agreeable now) (.worker 0) now 30

/-- Somebody sends the customer to where there is no state. -/
def misled : Story := opened.call office (.worker 1) (.operation (.force customer "lost"))

/-- A retry comes by the waiting room, which is empty. -/
def attended : Story :=
  (misled.call office (.worker 2) (.job (retryOf waiting readyGate) ⟨now, now⟩)).drive
    (agreeable now) (.worker 2) now 5

/-- A world in which every feed is said to be missing. -/
def mistaken : (r : Request) → r.Answer
  | .fetch _ => .error (.undeclared "billing")
  | r => agreeable now r

/-- The customer is looked at in that world. -/
def revisited : Story :=
  (attended.call office (.worker 3) (.operation (.drain customer))).drive mistaken
  (.worker 3) now 30

theorem chronicle_opened : Chronicle office opened.moments opened.past opened.system :=
  (Chronicle.opening (.worker 0) (.operation (.create customer (.obj [])))).drive _ _ _ _

theorem chronicle_revisited :
    Chronicle office revisited.moments revisited.past revisited.system := by
  have hfirst : (opened.system.tasks (.worker 1)).isNone = true := by decide +kernel
  have hmisled := chronicle_opened.call (.worker 1) (.operation (.force customer "lost"))
    (Option.isNone_iff_eq_none.1 hfirst)
  have hsecond : (misled.system.tasks (.worker 2)).isNone = true := by decide +kernel
  have hattended : Chronicle office attended.moments attended.past attended.system :=
    (hmisled.call _ _ (Option.isNone_iff_eq_none.1 hsecond)).drive _ _ _ _
  have hthird : (attended.system.tasks (.worker 3)).isNone = true := by decide +kernel
  exact (hattended.call _ _ (Option.isNone_iff_eq_none.1 hthird)).drive _ _ _ _

/-- What a fetch was answered. -/
def fetched? : Happening → Option (Except FeedError Value)
  | .said _ ⟨.fetch _, answer⟩ => some answer
  | _ => none

/-- At first both feeds were there. -/
theorem opened_fetched :
    opened.past.filterMap fetched? = [.ok (.obj []), .ok (.obj [])] := by
  with_unfolding_all rfl

/-- Neither of the feeds fetched so far was told to be missing. -/
theorem opened_candid : FetchedCandidly opened.past := by
  rintro client feed ⟨url, htold⟩
  have hfetched : .error (.undeclared feed) ∈ opened.past.filterMap fetched? :=
    List.mem_filterMap.2 ⟨_, htold, rfl⟩
  rw [opened_fetched] at hfetched
  simp at hfetched

end Office

open Office in
/-- A demand fails for the state that it names, and a draining for a feed that was
said to be missing; the job does not fail.  While the feeds are there, nothing is
passed on. -/
theorem Chronicle.configured_office : office.Built ∧
    Chronicle office opened.moments opened.past opened.system ∧
    FetchedCandidly opened.past ∧
    opened.past.filterMap fetched? = [.ok (.obj []), .ok (.obj [])] ∧
    (∀ client (error : EngineError), ¬ error.PassesOn (ToldMissing client opened.past)) ∧
    Chronicle office revisited.moments revisited.past revisited.system ∧
    revisited.system.tasks (.worker 1) = some ⟨.operation (.force customer "lost"),
      some (.done (.error (.unknownState "accounts" "lost")))⟩ ∧
    ((Operation.force customer "lost").Misnamed office (.unknownState "accounts" "lost") ∨
      EngineError.PassesOn (ToldMissing (.worker 1) revisited.past)
        (.unknownState "accounts" "lost")) ∧
    Ends revisited.moments (.worker 3) (drain office customer)
      (.error (.feed (.undeclared "billing"))) ∧
    EngineError.PassesOn (ToldMissing (.worker 3) revisited.past)
      (.feed (.undeclared "billing")) ∧
    ∃ result, revisited.system.tasks (.worker 2) =
      some ⟨.job (retryOf waiting readyGate) ⟨now, now⟩, some (.done result)⟩ ∧
      ∃ summary, result = .ok summary := by
  obtain ⟨-, -, -, -, hnothing⟩ := Chronicle.configured office_built chronicle_opened
  obtain ⟨hoperations, hdrains, hjobs, -⟩ :=
    Chronicle.configured office_built chronicle_revisited
  have hforced :
      revisited.system.tasks (.worker 1) = some ⟨.operation (.force customer "lost"),
        some (.done (.error (.unknownState "accounts" "lost")))⟩ := by
    with_unfolding_all rfl
  have hdrained : revisited.system.tasks (.worker 3) = some ⟨.operation (.drain customer),
      some (.done (.error (.feed (.undeclared "billing"))))⟩ := by with_unfolding_all rfl
  have hattended : revisited.system.tasks (.worker 2) =
      some ⟨.job (retryOf waiting readyGate) ⟨now, now⟩,
        some (.done (.ok (.batch ⟨0, 0, 0, false⟩)))⟩ := by
    with_unfolding_all rfl
  have hends := chronicle_revisited.ends_drain hdrained
  have hconfigured : (retryOf waiting readyGate, _) ∈ Agenda.applicationJobs office :=
    List.mem_singleton_self _
  exact ⟨office_built, chronicle_opened, opened_candid, opened_fetched,
    hnothing opened_candid, chronicle_revisited, hforced,
    hoperations _ _ _ hforced (.unknownState _ _), hends, hdrains _ _ _ hends
      (.undeclared _), _, hattended, hjobs _ _ _ _ _ hconfigured hattended⟩

end Turnstile
