import Turnstile.Proofs.Engine.Configured
import Turnstile.Proofs.Engine.Grants
import Turnstile.Proofs.Engine.Histories
import Turnstile.Proofs.Engine.Journal
import Turnstile.Proofs.Engine.Updates

/-!
# Failures leave nothing behind

The journal of a client agrees with its chronicle (`Recorded`): its commits made the
changes that lie on the desks it has kept, in the same order, and the desk that was
dropped since was rolled back.  All else that is said with a client changes nothing that
is committed (`Chronicle.uncommitted`).  So what is shown of the journal of a call is
true of a run, however the calls are interleaved (`Chronicle.journal`).

What a client was granted is a matter of its conversation alone
(`Run.commitsOf_eq_granted`), so what is shown of all conversations is true of a
run as well.

`Chronicle.atomic` says what comes of it: whoever is told that an operation has failed
knows from the error what has been written, and an operation that has committed a
creation or an update does not fail.
-/

set_option autoImplicit false

namespace Turnstile

open Time (DateTime)

/-! ## What is to be shown -/

/-- Nothing that was said with a client has changed a row or a history. -/
def Unwritten (moments : List Moment) (client : Client) : Prop :=
  ∀ m ∈ moments, ∀ exchange, m.happening = .said client exchange →
    m.before.store.Unchanged m.after.store

/-- The commits of a client. -/
def commitsAt (client : Client) (moments : List Moment) : List Moment :=
  moments.filter fun m => m.happening.isCommitOf client

/-- What a demand leaves that has failed after it was committed: the demanded move of
the label, and the moves of the steps after it, one commit for each.  The step that
failed was rolled back, and nothing else was written. -/
structure Interrupted (app : App) (moments : List Moment) (client : Client)
    (label : Label) (state : String) (error : EngineError) : Prop where
  committed : ∃ first steps, commitsAt client moments = first :: steps ∧
    (∃ d, d.label = label ∧ d.Demanded app state ∧
      first.before.store.Committed first.after.store d) ∧
    ∀ m ∈ steps, ∃ d, d.Moved app label ∧ m.before.store.Committed m.after.store d
  failed : ∃ earlier m later, moments = earlier ++ m :: later ∧
    (∃ answer, m.happening = .said client ⟨.store .rollback, answer⟩) ∧
    (∃ d : Desk, d.Shown m.before.store client ∧ d.Failed app label error) ∧
    m.before.store.Unchanged m.after.store ∧ m.after.store.transaction? client = none ∧
    commitsAt client later = []
  silent : ∀ m ∈ moments, ∀ exchange, m.happening = .said client exchange →
    m.happening.isCommitOf client = false → m.before.store.Unchanged m.after.store

variable {app : App} {call : Call} {label : Label} {client : Client}
  {past : List Happening}
variable {moments earlier later : List Moment} {m : Moment} {s before after : System}
variable {happening : Happening} {j : Journal}

/-! ## Journals of a run -/

/-- Clients commit by what they say. -/
theorem Happening.isCommitOf_unsaid (h : ∀ exchange, happening ≠ .said client exchange) :
    happening.isCommitOf client = false := by
  refine Bool.eq_false_iff.2 fun hcommit => ?_
  unfold Happening.isCommitOf at hcommit
  split at hcommit
  · exact h _ (congrArg (Happening.said · _) (of_decide_eq_true hcommit))
  · cases hcommit

/-- Only commits change what is committed. -/
theorem Chronicle.uncommitted (chronicle : Chronicle app moments past s)
    (hm : m ∈ moments) {exchange : Exchange} (hsaid : m.happening = .said client exchange)
    (hcommit : m.happening.isCommitOf client = false) :
    m.before.store.Unchanged m.after.store := by
  obtain ⟨earlier, later, rfl⟩ := List.append_of_mem hm
  obtain ⟨-, hstep, -⟩ := chronicle.upTo
  rw [hsaid] at hcommit hstep
  generalize m.after = after at hstep ⊢
  cases hstep with
  | say _ now htask hanswer =>
      refine hanswer.unchanged ?_
      rintro rfl
      simp [Happening.isCommitOf] at hcommit

/-- The journal of a client agrees with what has happened. -/
structure Recorded (moments : List Moment) (client : Client) (j : Journal) : Prop where
  kept : List.Forall₂ (fun m d => m.before.store.Committed m.after.store d)
    (commitsAt client moments) j.kept
  dropped : ∀ d, j.dropped = some d → ∃ earlier m later, moments = earlier ++ m :: later ∧
    (∃ answer, m.happening = .said client ⟨.store .rollback, answer⟩) ∧
    d.Shown m.before.store client ∧ commitsAt client later = []

/-- The moments hold as many commits of a client as the past does. -/
theorem Chronicle.length_commitsAt (chronicle : Chronicle app moments past s) :
    (commitsAt client moments).length = commitsOf client past := by
  rw [chronicle.past_eq, commitsOf, List.countP_map, List.countP_eq_length_filter]
  rfl

@[simp] theorem commitsAt_append (client : Client) (moments more : List Moment) :
    commitsAt client (moments ++ more) = commitsAt client moments ++
      commitsAt client more :=
  List.filter_append ..

/-- A moment that is no commit of the client leaves its journal as it is. -/
theorem Recorded.silent (h : Recorded moments client j)
    (hcommit : m.happening.isCommitOf client = false) :
    Recorded (moments ++ [m]) client j := by
  have hnone : commitsAt client [m] = [] := by simp [commitsAt, hcommit]
  refine ⟨by rw [commitsAt_append, hnone, List.append_nil]; exact h.kept, fun d hd => ?_⟩
  obtain ⟨earlier, f, later, rfl, hrollback, hshown, hlater⟩ := h.dropped d hd
  exact ⟨earlier, f, later ++ [m], by simp, hrollback, hshown, by simp [hlater, hnone]⟩

/-- A commit shows what lay on the desk. -/
theorem Desk.Shown.committed {store : Store} {d : Desk} (h : d.Shown store client)
    (hsound : store.Sound) :
    store.Committed (store.commit client) d := by
  obtain ⟨hrow, hpast, hother⟩ := h.commit hsound
  exact ⟨h.row, h.past, hrow, hpast, hother⟩

/-- What a client is told goes into its journal. -/
theorem Recorded.said {r : Request} {answer : r.Answer} (past : List Happening)
    (h : Recorded moments client j) (hsound : before.store.Sound)
    (hagrees : j.view.stance.Agrees before.store client) (hmay : j.view.May app call r)
    (hstep : System.Step app before (.said client ⟨r, answer⟩) after)
    (w : View) :
    Recorded (moments ++ [⟨past, before, .said client ⟨r, answer⟩, after⟩]) client
      (j.after w r) := by
  have hother : (Happening.said client ⟨r, answer⟩).isCommitOf client = false →
      j.after w r = { j with view := w } →
      Recorded (moments ++ [⟨past, before, .said client ⟨r, answer⟩, after⟩]) client
        (j.after w r) := by
    intro hcommit hjournal
    have hsilent :=
      h.silent (m := ⟨past, before, .said client ⟨r, answer⟩, after⟩) hcommit
    exact hjournal ▸ ⟨hsilent.kept, hsilent.dropped⟩
  cases r with
  | store request =>
      cases request with
      | commit =>
          obtain ⟨d, hd, -⟩ : ∃ d, j.view.stance = .holding d ∧
              call.Deed app j.view.commits d := hmay
          have hshown : d.Shown before.store client := by rwa [hd] at hagrees
          have hmoment : before.store.Committed after.store d := by
            cases hstep with
            | say _ now _ hanswer => cases hanswer; exact hshown.committed hsound
          refine ⟨?_, by rintro _ ⟨⟩⟩
          rw [commitsAt_append]
          refine List.rel_append h.kept ?_
          simp only [commitsAt, Happening.isCommitOf, hd, Stance.desk?, decide_true,
            List.filter_cons, List.filter_nil, if_true, Option.toList_some]
          exact .cons hmoment .nil
      | rollback =>
          obtain ⟨d, hd, -⟩ : ∃ d, j.view.stance = .holding d ∧ _ := hmay
          have hshown : d.Shown before.store client := by rwa [hd] at hagrees
          have hsilent :=
            h.silent
              (m := ⟨past, before, .said client ⟨.store .rollback, answer⟩, after⟩) rfl
          refine ⟨hsilent.kept, fun dropped hdropped => ?_⟩
          obtain rfl : d = dropped := by
            have : j.view.stance.desk? = some dropped := hdropped
            simpa [hd, Stance.desk?] using this
          exact ⟨moments, _, [], rfl, ⟨answer, rfl⟩, hshown, rfl⟩
      | _ => exact hother rfl rfl
  | _ => exact hother rfl rfl

/-- A call that keeps a journal of a kind keeps such a journal in a chronicle, and it
agrees with it. -/
theorem Chronicle.journal {goal : Except EngineError CallResult → Journal → Prop}
    {rest : Work (Except EngineError CallResult)} (happ : app.Built)
    (chronicle : Chronicle app moments past s)
    (htask : s.tasks client = some ⟨call, some rest⟩)
    (h : (call.perform app).Follows (journaling app) goal .opened) :
    ∃ j, rest.Follows (journaling app) goal j ∧ Recorded moments client j := by
  obtain ⟨j, -, -, hgoal, hrecorded⟩ :
      ∃ j : Journal, j.view.stance.Agrees s.store client ∧
        rest.Follows (protocol app call) (fun _ after => after.stance = .idle) j.view ∧
        rest.Follows (journaling app) goal j ∧ Recorded moments client j := by
    induction chronicle generalizing rest with
    | empty => cases htask
    | @step moments past before after happening chronicle hstep ih =>
        have hfaithful := chronicle.faithful happ
        rcases hstep.work_cases htask with
          ⟨rfl, hnew, rfl⟩ | ⟨r, next, answer, rfl, hwas, rfl⟩ | ⟨hwas, hsilent⟩
        · obtain ⟨hidle, hcount⟩ := hfaithful.uncalled hnew
          have hnone : commitsAt client moments = [] := by
            rw [← List.length_eq_zero_iff, chronicle.length_commitsAt, hcount]
          have hopened : Recorded moments client .opened :=
            ⟨by rw [hnone]; exact .nil, by rintro d ⟨⟩⟩
          refine ⟨.opened, ?_, Call.perform_follows happ call, h, hopened.silent rfl⟩
          cases hstep with
          | call => exact hidle
        · obtain ⟨j, hagrees, hfollows, hgoal, hrecorded⟩ := ih hwas
          have hsaid := hrecorded.said past hfaithful.sound hagrees hfollows.1 hstep
          cases hstep with
          | @say made _ asked _ store _ now hasked hanswer =>
              cases hwas.symm.trans hasked
              obtain ⟨w, hreply, hafter, -⟩ :=
                answers hagrees hfaithful.sound hfaithful.lawful hfollows.1 hanswer
              refine ⟨j.after w r, ?_, ?_, hgoal.2 answer _ ⟨?_, ?_⟩, hsaid w⟩
              · rwa [Journal.after_view]
              · rw [Journal.after_view]
                exact hfollows.2 answer w hreply
              · rwa [Journal.after_view]
              · rw [Journal.after_view]
        · obtain ⟨j, hagrees, hfollows, hgoal, hrecorded⟩ := ih hwas
          have hgone : happening ≠ .vanished client := by
            rintro rfl
            cases hstep with
            | vanish => simp [System.assign] at htask
          obtain ⟨-, hstill⟩ := hfaithful.unnoticed hstep hwas hsilent hgone
          exact ⟨j, hstill _ hagrees, hfollows, hgoal,
            hrecorded.silent (Happening.isCommitOf_unsaid hsilent)⟩
  exact ⟨j, hgoal, hrecorded⟩

/-- A demand that has failed has kept a journal of what it has left. -/
theorem Chronicle.demand_journal {state : String} {error : EngineError} (happ : app.Built)
    (chronicle : Chronicle app moments past s)
    (htask : s.tasks client =
      some ⟨.operation (.force label state), some (.done (.error error))⟩) :
    ∃ j, Journal.DemandFailed app label state error j ∧ Recorded moments client j := by
  have hjournal :
      (Call.perform app (.operation (.force label state))).Follows (journaling app)
        (fun result after => ∀ error, result = .error error →
          Journal.DemandFailed app label state error after)
        .opened := by
    refine Attempt.follows_bind.2
      (Attempt.follows_bind.2 ((journal_forceLabel label state).mono ?_))
    intro result after hfailed
    cases result with
    | ok _ => rintro _ ⟨⟩
    | error cause =>
        rintro _ ⟨⟩
        exact hfailed cause rfl
  obtain ⟨j, hgoal, hrecorded⟩ := chronicle.journal happ htask hjournal
  exact ⟨j, hgoal error rfl, hrecorded⟩

/-! ## What a failure leaves -/

/-- A client that has committed nothing has written nothing. -/
theorem Chronicle.unwritten (chronicle : Chronicle app moments past s)
    (hnone : commitsAt client moments = []) : Unwritten moments client := by
  intro m hm exchange hsaid
  refine chronicle.uncommitted hm hsaid (Bool.eq_false_iff.2 fun hcommit => ?_)
  exact List.ne_nil_of_mem (List.mem_filter.2 ⟨hm, hcommit⟩) hnone

/-- Who has kept nothing has committed nothing. -/
theorem Recorded.commitsAt_eq_nil (h : Recorded moments client j) (hkept : j.kept = []) :
    commitsAt client moments = [] := by
  have hall := h.kept
  rwa [hkept, List.forall₂_nil_right_iff] at hall

/-- In a run every commit is granted. -/
theorem Run.commitsOf_eq_granted (run : Run app past s) (client : Client) :
    commitsOf client past = (grantsOf (exchangesOf client past)).granted.length := by
  induction run with
  | empty => rfl
  | @step past before after happening run hstep ih =>
      rw [commitsOf_append, ih]
      by_cases hsaid : ∃ exchange, happening = .said client exchange
      · obtain ⟨⟨r, answer⟩, rfl⟩ := hsaid
        rw [exchangesOf_said, grantsOf_append]
        cases hstep with
        | say _ now htask hanswer =>
            cases r with
            | store request =>
                cases request with
                | commit => cases hanswer; simp [Grants.after, Happening.isCommitOf]
                | append move => cases answer <;> rfl
                | _ => rfl
            | _ => rfl
      · have hunsaid : ∀ exchange, happening ≠ .said client exchange :=
          fun exchange h => hsaid ⟨exchange, h⟩
        rw [exchangesOf_unsaid hunsaid, Happening.isCommitOf_unsaid hunsaid]
        rfl

/-- A creation, an update or a deletion that has failed has committed nothing. -/
theorem Chronicle.failed (chronicle : Chronicle app moments past s) {op : Operation}
    (hop : op.AllOrNothing) {error : EngineError}
    (htask : s.tasks client = some ⟨.operation op, some (.done (.error error))⟩) :
    commitsAt client moments = [] := by
  obtain ⟨left, hleads, hleft⟩ := chronicle.run.conversation htask
  obtain rfl := hleft _ rfl
  have hnothing :=
    Work.Follows.granted (hop.granted.map CallResult.operation) hleads error rfl
  rw [← List.length_eq_zero_iff, chronicle.length_commitsAt,
    chronicle.run.commitsOf_eq_granted]
  exact congrArg List.length hnothing

/-- A step that fails for what operations are refused for has found no row, or a label
that was deleted. -/
theorem Desk.Failed.of_refusal {d : Desk} {error : EngineError}
    (h : d.Failed app label error) (hrefusal : error.Refusal) :
    d.row = none ∨ ∃ other, error = .deletedLabel other := by
  have hfailure := h.failure
  cases hrefusal with
  | unknownMachine name => cases hfailure
  | unknownState machine state =>
      cases hfailure with
      | lost hmachine hlive hstate hunknown =>
          have hknown := h.lawful.state_known hmachine hlive hstate
          rw [hunknown] at hknown
          cases hknown
  | unknownLabel other =>
      cases hfailure with
      | unborn hrow => exact .inl hrow
  | deletedLabel other => exact .inr ⟨other, rfl⟩

/-- A label that has a row after a moment has one ever since. -/
theorem Chronicle.row_since (happ : app.Built)
    (chronicle : Chronicle app (earlier ++ m :: later) past s)
    (hrow : (m.after.store.row? label).isSome) : (s.store.row? label).isSome :=
  chronicle.onward (P := fun _ _ s => (s.store.row? label).isSome) hrow
    fun chronicle hstep hrow => (chronicle.faithful happ).row_kept hstep hrow

/-- A rollback forgets what was staged. -/
theorem Chronicle.rolled_back (chronicle : Chronicle app (earlier ++ m :: later) past s)
    {answer : Except StoreError Unit}
    (hsaid : m.happening = .said client ⟨.store .rollback, answer⟩) :
    m.after.store.transaction? client = none := by
  obtain ⟨-, hstep, -⟩ := chronicle.upTo
  rw [hsaid] at hstep
  generalize m.after = after at hstep ⊢
  cases hstep with
  | say _ now htask hanswer =>
      cases hanswer; exact Store.transaction?_rollback .. ▸ if_pos rfl

/-- Of two lists that are related, each member of the first is related to one of the
second. -/
theorem exists_of_forall₂ {α β : Type} {R : α → β → Prop} {as : List α} {bs : List β}
    (h : List.Forall₂ R as bs) : ∀ a ∈ as, ∃ b ∈ bs, R a b := by
  induction h with
  | nil => simp
  | @cons a b as bs hab _ ih =>
      intro x hx
      rcases List.mem_cons.1 hx with rfl | hx
      · exact ⟨b, by simp, hab⟩
      · obtain ⟨y, hy, hxy⟩ := ih x hx
        exact ⟨y, by simp [hy], hxy⟩

section Stopped

variable {state : String} {error : EngineError} {first : Desk} {view : View}

/-- What the journal of a demand that was stopped says has happened. -/
theorem Recorded.interrupted (chronicle : Chronicle app moments past s)
    (h : Recorded moments client j) (hlabel : first.label = label)
    (hdemanded : first.Demanded app state)
    (hstopped : Journal.Stopped app label error ⟨view, [first], none⟩ j) :
    Interrupted app moments client label state error where
  committed := by
    obtain ⟨moved, hkept, hmoved⟩ := hstopped.kept
    have hall := h.kept
    rw [hkept] at hall
    obtain ⟨demand, steps, hdemand, hsteps, hcommits⟩ :=
      List.forall₂_cons_right_iff.1 hall
    refine ⟨demand, steps, hcommits, ⟨first, hlabel, hdemanded, hdemand⟩, fun m hm => ?_⟩
    obtain ⟨d, hd, hcommitted⟩ := exists_of_forall₂ hsteps m hm
    exact ⟨d, hmoved d hd, hcommitted⟩
  failed := by
    obtain ⟨d, hd, hfailed⟩ := hstopped.dropped
    obtain ⟨earlier, m, later, rfl, ⟨answer, hsaid⟩, hshown, hlater⟩ := h.dropped d hd
    exact ⟨earlier, m, later, rfl, ⟨answer, hsaid⟩, ⟨d, hshown, hfailed⟩,
      chronicle.uncommitted (by simp) hsaid (by rw [hsaid]; rfl),
      chronicle.rolled_back hsaid, hlater⟩
  silent m hm exchange hsaid hcommit := chronicle.uncommitted hm hsaid hcommit

/-- A drain that was stopped after a demanded move was not stopped by what operations
are refused for: the label has a row since the demand. -/
theorem Recorded.not_refusal (happ : app.Built) (chronicle : Chronicle app moments past s)
    (h : Recorded moments client j) (hlabel : first.label = label)
    (hdemanded : first.Demanded app state)
    (hstopped : Journal.Stopped app label error ⟨view, [first], none⟩ j) :
    ¬ error.Refusal := by
  intro hrefusal
  obtain ⟨d, hd, hfailed⟩ := hstopped.dropped
  obtain ⟨earlier, m, later, rfl, ⟨answer, hsaid⟩, hshown, hlater⟩ := h.dropped d hd
  obtain ⟨moved, hkept, -⟩ := hstopped.kept
  have hall := h.kept
  rw [hkept] at hall
  obtain ⟨demand, steps, hdemand, -, hcommits⟩ := List.forall₂_cons_right_iff.1 hall
  have hrow : (demand.after.store.row? label).isSome := by
    obtain ⟨row, hlive⟩ := hdemanded.live
    rw [← hlabel, hdemand.rowAfter, Desk.rowAfter, hdemanded.saved, hlive.1]
    rfl
  have hbefore : demand ∈ earlier := by
    have hin : demand ∈ commitsAt client (earlier ++ m :: later) := by simp [hcommits]
    have hrollback : commitsAt client [m] = [] := by
      simp [commitsAt, hsaid, Happening.isCommitOf]
    rw [← List.singleton_append, commitsAt_append, commitsAt_append, hrollback, hlater,
      List.append_nil, List.append_nil] at hin
    exact (List.mem_filter.1 hin).1
  obtain ⟨before, since, rfl⟩ := List.append_of_mem hbefore
  have hstill := chronicle.upTo.1.row_since happ hrow
  rcases hfailed.of_refusal hrefusal with hnone | ⟨other, rfl⟩
  · rw [← hfailed.label, hshown.row, hnone] at hstill
    cases hstill
  · exact hstopped.undeleted other rfl

end Stopped

/-! ## Calls that go on -/

/-- **A call ends** when it goes on and nobody else holds a lock. -/
theorem Story.ends {work : Work (Except EngineError CallResult)} {story : Story}
    (htask : story.system.tasks client = some ⟨call, some work⟩)
    (hsound : story.system.store.Sound)
    (hfree : ∀ label, story.system.store.isTaken client label = false)
    (world : (r : Request) → r.Answer) (now : DateTime) :
    ∃ times result, (story.drive world client now times).system.tasks client =
      some ⟨call, some (.done result)⟩ := by
  refine (Story.drive_ends
    (P := fun s => s.store.Sound ∧ ∀ label, s.store.isTaken client label = false)
    world now
      (fun _ _ _ h _ => Store.served_of_free (fun label _ => h.2 label) now) ?_ htask
    ⟨hsound, hfree⟩).imp ?_
  · intro s r next answer after ⟨hsound, hfree⟩ _ hanswer
    obtain ⟨hafter, hstill⟩ := hanswer.free hsound
    exact ⟨hafter, fun label => hstill label (hfree label)⟩
  · rintro times ⟨result, -, hends⟩
    exact ⟨result, hends⟩

/-! ## Atomicity -/

/-- Operations that have failed leave what their errors say, and an operation that has
committed does not fail. -/
structure Atomic (app : App) (story : Story) : Prop where
  /-- A creation, an update or a deletion that has failed has written nothing. -/
  failed : ∀ client op error, op.AllOrNothing →
    story.system.tasks client = some ⟨.operation op, some (.done (.error error))⟩ →
    Unwritten story.moments client
  /-- A demand that was refused has written nothing. -/
  refused : ∀ client label state error,
    story.system.tasks client =
      some ⟨.operation (.force label state), some (.done (.error error))⟩ →
    error.Refusal → Unwritten story.moments client
  /-- A demand that has failed for any other reason was committed, and so was what came
  of it before. -/
  interrupted : ∀ client label state error,
    story.system.tasks client =
      some ⟨.operation (.force label state), some (.done (.error error))⟩ →
    ¬ error.Refusal → Interrupted app story.moments client label state error
  /-- Once it has committed, a creation, an update or a deletion can only succeed. -/
  succeeds : ∀ client op result, op.AllOrNothing → 0 < commitsOf client story.past →
    story.system.tasks client = some ⟨.operation op, some (.done result)⟩ →
    ∃ value, result = .ok value
  /-- And it does when it goes on and nobody else holds a lock, whatever it is
  answered. -/
  ends : ∀ client op rest, op.AllOrNothing → 0 < commitsOf client story.past →
    story.system.tasks client = some ⟨.operation op, some rest⟩ →
    (∀ label, story.system.store.isTaken client label = false) →
    ∀ world now, ∃ times value,
      (story.drive world client now times).system.tasks client =
        some ⟨.operation op, some (.done (.ok value))⟩

section Stories

variable {story : Story}

/-- What has failed has not committed. -/
theorem Chronicle.succeeds
    (chronicle : Chronicle app story.moments story.past story.system) {op : Operation}
    (hop : op.AllOrNothing) (hcommits : 0 < commitsOf client story.past)
    {result : Except EngineError CallResult}
    (htask : story.system.tasks client = some ⟨.operation op, some (.done result)⟩) :
    ∃ value, result = .ok value := by
  cases result with
  | ok value => exact ⟨value, rfl⟩
  | error error =>
      have hnone := chronicle.failed hop htask
      rw [← chronicle.length_commitsAt, hnone] at hcommits
      cases hcommits

/-- While a client is driven it forgets no commit. -/
theorem Chronicle.commitsOf_drive
    (chronicle : Chronicle app story.moments story.past story.system)
    (client : Client) (world : (r : Request) → r.Answer) (now : DateTime) (times : Nat) :
    commitsOf client story.past ≤
      commitsOf client (story.drive world client now times).past := by
  obtain ⟨during, hmoments, -⟩ := @Story.drive_moments story world client now times
  rw [← chronicle.length_commitsAt,
    ← (chronicle.drive world client now times).length_commitsAt, hmoments,
    commitsAt_append, List.length_append]
  exact Nat.le_add_right ..

/-- All four parts, of a story that was told. -/
theorem Chronicle.atomic_story (happ : app.Built)
    (chronicle : Chronicle app story.moments story.past story.system) :
    Atomic app story where
  failed client op error hop htask := chronicle.unwritten (chronicle.failed hop htask)
  refused client label state error htask hrefusal := by
    obtain ⟨j, hfailed, hrecorded⟩ := chronicle.demand_journal happ htask
    cases hfailed with
    | refused _ hkept => exact chronicle.unwritten (hrecorded.commitsAt_eq_nil hkept)
    | stopped hlabel hdemanded hstopped =>
        exact absurd hrefusal
          (hrecorded.not_refusal happ chronicle hlabel hdemanded hstopped)
  interrupted client label state error htask hother := by
    obtain ⟨j, hfailed, hrecorded⟩ := chronicle.demand_journal happ htask
    cases hfailed with
    | refused hrefusal _ => exact absurd hrefusal hother
    | stopped hlabel hdemanded hstopped =>
        exact hrecorded.interrupted chronicle hlabel hdemanded hstopped
  succeeds client op result hop hcommits htask := chronicle.succeeds hop hcommits htask
  ends client op rest hop hcommits htask hfree world now := by
    obtain ⟨times, result, hends⟩ :=
      Story.ends htask (chronicle.faithful happ).sound hfree world now
    have hmore := chronicle.commitsOf_drive client world now times
    obtain ⟨value, rfl⟩ := (chronicle.drive world client now times).succeeds hop
      (Nat.lt_of_lt_of_le hcommits hmore) hends
    exact ⟨times, value, hends⟩

/-- **Failures leave nothing behind.**  In every run, however its calls are interleaved
and whatever they are answered: a creation, an update or a deletion that fails has
written nothing; a demand that fails has written nothing if it was refused, and else the
demanded move and the steps that succeeded; and a creation, an update or a deletion that
has committed its own transaction succeeds, whatever comes of what follows.  A store
that refuses requests does not change this: an operation that fails for it leaves no
more than was granted. -/
theorem Chronicle.atomic (happ : app.Built)
    (chronicle : Chronicle app story.moments story.past story.system) :
    Atomic app story ∧ Contained app :=
  ⟨chronicle.atomic_story happ, contained app⟩

end Stories

/-! ## A label that is led nowhere -/

/-- A machine in which a label is led on only if its metadata say so. -/
def junction : Machine :=
  ⟨"junction",
    [.action ⟨"asked", "https://example.com", .byValue "ready" [⟨.bool true, "asked"⟩]⟩],
    [], []⟩

theorem junction_built : junction.Built := by
  have hreached : reachedNames junction.states = ["asked"] := by
    change reachFrom junction.states ["asked"] [] = _
    rw [reachFrom_new rfl rfl]
    change reachFrom junction.states ["asked"] ["asked"] = _
    rw [reachFrom, dif_pos (by decide), reachFrom]
  have hvalid : violations junction.states junction.feeds = [] := by
    rw [violations, unreachableStates, hreached]
    with_unfolding_all rfl
  exact ⟨⟨"junction", [.action "asked" (some "https://example.com")
    (.byValue "ready" [⟨.bool true, "asked"⟩])], [], []⟩,
    Blueprint.build_eq_ok rfl rfl hvalid⟩

/-- An application of that machine alone. -/
def crossing : App := .ofMachines [junction] {} true

theorem crossing_built : crossing.Built :=
  ⟨[junction], {}, true, [], rfl, fun _ hm => List.mem_singleton.1 hm ▸ junction_built⟩

namespace Crossing

def now : DateTime := ⟨0, ⟨0, 0⟩⟩

def traveller : Label := ⟨"a", "junction"⟩

/-- A traveller has arrived. -/
def arrived : Story :=
  (Story.call {} crossing (.worker 0) (.operation (.create traveller (.obj [])))).drive
    (agreeable now) (.worker 0) now 5

/-- The traveller is sent back to the start, and is led nowhere from there. -/
def stranded : Story :=
  (arrived.call crossing (.worker 1) (.operation (.force traveller "asked"))).drive
    (agreeable now) (.worker 1) now 30

/-- Somebody looks for another who is not there. -/
def missed : Story :=
  (stranded.call crossing (.worker 2)
    (.operation (.update ⟨"b", "junction"⟩ (.obj [])))).drive
    (agreeable now) (.worker 2) now 9

theorem chronicle_arrived :
    Chronicle crossing arrived.moments arrived.past arrived.system :=
  (Chronicle.opening (.worker 0) (.operation (.create traveller (.obj [])))).drive _ _ _ _

theorem chronicle_missed :
    Chronicle crossing missed.moments missed.past missed.system := by
  have hnew : (arrived.system.tasks (.worker 1)).isNone = true := by cbv
  have hstranded : Chronicle crossing stranded.moments stranded.past stranded.system :=
    (chronicle_arrived.call _ _ (Option.isNone_iff_eq_none.1 hnew)).drive _ _ _ _
  have hother : (stranded.system.tasks (.worker 2)).isNone = true := by cbv
  exact (hstranded.call _ _ (Option.isNone_iff_eq_none.1 hother)).drive _ _ _ _

/-- The demand fails for want of a route that matches. -/
theorem demand_failed :
    missed.system.tasks (.worker 1) = some ⟨.operation (.force traveller "asked"),
    some (.done (.error (.route (.noMatch "ready" .null))))⟩ := by cbv

/-- The update fails for want of a label. -/
theorem update_failed : missed.system.tasks (.worker 2) =
    some ⟨.operation (.update ⟨"b", "junction"⟩ (.obj [])),
      some (.done (.error (.unknownLabel ⟨"b", "junction"⟩)))⟩ := by cbv

/-- Nobody else has a lock when the traveller has arrived. -/
theorem arrived_free (label : Label) :
    arrived.system.store.isTaken (.worker 0) label = false := by
  have hnone : arrived.system.store.transactions = [] := by with_unfolding_all rfl
  simp [Store.isTaken, hnone]

/-- What is said when the store has no room for the demanded move. -/
def unlucky : List Exchange :=
  [⟨.store .begin, .ok ()⟩,
    ⟨.store (.lock traveller), .ok (some ⟨traveller, .obj [], false, true⟩)⟩,
    ⟨.store (.ownHistory traveller), .ok [⟨.creation traveller "asked", 1, now⟩]⟩,
    ⟨.store (.append (.demanded traveller "asked" "asked")),
      .ok ⟨.demanded traveller "asked" "asked", 2, now⟩⟩,
    ⟨.store .commit, .error (.backend "no room")⟩]

/-- The store has no room for the demanded move, and the call says so. -/
theorem leads_unlucky :
    ((Operation.force traveller "asked").perform crossing).run.Leads unlucky
    (.done (.error (.store (.backend "no room")))) := by
  unfold unlucky
  with_unfolding_all exact .said (.said (.said (.said (.said (.here _)))))

end Crossing

open Crossing in
/-- A demand is kept though its drain fails, a failed update writes nothing, and a
creation whose move was committed succeeds however its drain ends. -/
theorem Chronicle.atomic_crossing : crossing.Built ∧
    Chronicle crossing missed.moments missed.past missed.system ∧
    Interrupted crossing missed.moments (.worker 1) traveller "asked"
      (.route (.noMatch "ready" .null)) ∧
    Unwritten missed.moments (.worker 2) ∧
    Chronicle crossing arrived.moments arrived.past arrived.system ∧
    commitsOf (.worker 0) arrived.past = 1 ∧
    (∃ times value,
      (arrived.drive (agreeable now) (.worker 0) now times).system.tasks (.worker 0) =
      some ⟨.operation (.create traveller (.obj [])), some (.done (.ok value))⟩) ∧
    (grantsOf unlucky).Demanded traveller "asked" := by
  obtain ⟨hatomic, hcontained⟩ := Chronicle.atomic crossing_built chronicle_missed
  obtain ⟨harrived, -⟩ := Chronicle.atomic crossing_built chronicle_arrived
  have hcommits : commitsOf (.worker 0) arrived.past = 1 := by decide +kernel
  obtain ⟨rest, htask⟩ : ∃ rest, arrived.system.tasks (.worker 0) =
      some ⟨.operation (.create traveller (.obj [])), some rest⟩ :=
        ⟨_, by with_unfolding_all rfl⟩
  exact ⟨crossing_built, chronicle_missed,
    hatomic.interrupted _ _ _ _ demand_failed nofun,
    hatomic.failed _ _ _ (.update _ _) update_failed, chronicle_arrived, hcommits,
    harrived.ends _ _ rest (.create _ _) (hcommits ▸ Nat.one_pos) htask arrived_free _ _,
    hcontained.demanded _ _ _ _ leads_unlucky⟩

end Turnstile
