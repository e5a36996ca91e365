import Turnstile.Proofs.Engine.Chronicle

/-!
# A worker alone

When nobody else does anything, a worker knows what becomes of the store.  The protocol
`solitary` remembers the store beside what the worker knows.  Work that keeps the
contract of a call keeps it as well (`Work.Follows.alone`), so the lemmas about steps
can be used here, and say what the store is after a transaction
(`solitary_inTransaction`).

What the work of a call does to a store when it is alone, it does in a chronicle while
its client is the only one to which anything happens (`Chronicle.alone`).
-/

set_option autoImplicit false

namespace Turnstile

open Time (DateTime)

/-- What a worker knows, and the store that it works on. -/
structure Scene where
  view : View
  store : Store

/-- The store agrees with where its client stands. -/
structure Scene.Agrees (scene : Scene) (client : Client) : Prop where
  stance : scene.view.stance.Agrees scene.store client
  sound : scene.store.Sound

/-- The protocol of a client that works alone. -/
def solitary (app : App) (client : Client) : Protocol Scene where
  may _ _ := True
  reply before r answer after :=
    before.view.Reply app r answer after.view ∧ after.Agrees client ∧
      ∃ now, r.Answered client now before.store answer after.store

/-- Nothing was committed in between. -/
structure Store.Unchanged (before after : Store) : Prop where
  rows : after.rows = before.rows
  ledger : after.ledger = before.ledger

variable {app : App} {client : Client} {call : Call} {v w : View} {s : Store}
  {scene : Scene}
variable {label : Label} {α : Type}

namespace Store.Unchanged

variable {before middle after : Store}

theorem refl (s : Store) : s.Unchanged s := ⟨rfl, rfl⟩

theorem trans (h : before.Unchanged middle) (h' : middle.Unchanged after) :
    before.Unchanged after :=
  ⟨h'.rows.trans h.rows, h'.ledger.trans h.ledger⟩

theorem row? (h : before.Unchanged after) (label : Label) :
    after.row? label = before.row? label :=
  congrArg (findRow · label) h.rows

theorem history (h : before.Unchanged after) (label : Label) :
    after.history label = before.history label :=
  congrArg (entriesOf · label) h.ledger

end Store.Unchanged

/-- Only a commit counts as one, and all else changes nothing that is committed. -/
theorem View.Reply.commits {r : Request} {answer : r.Answer}
    (h : v.Reply app r answer w) :
    r = .store .commit ∧ w.commits = v.commits + 1 ∨ r ≠ .store .commit ∧
    w.commits = v.commits := by
  have hhear : ∀ exchange, (v.hear exchange).commits = v.commits := by
    intro exchange
    unfold View.hear
    split <;> rfl
  cases r with
  | store request =>
      cases request with
      | commit => exact .inl ⟨rfl, h.2 ▸ rfl⟩
      | lock label =>
          refine .inr ⟨by simp, ?_⟩
          rcases h with ⟨-, row, past, -, -, rfl⟩ | ⟨d, -, -, rfl⟩ <;> rfl
      | save row =>
          obtain ⟨d, -, -, rfl⟩ := h
          exact .inr ⟨by simp, rfl⟩
      | append move =>
          obtain ⟨d, entry, -, -, -, -, rfl⟩ := h
          exact .inr ⟨by simp, rfl⟩
      | ownHistory label =>
          obtain ⟨d, -, -, rfl⟩ := h
          exact .inr ⟨by simp, rfl⟩
      | _ => exact .inr ⟨by simp, h.2 ▸ rfl⟩
  | deliver delivery => exact .inr ⟨by simp, h ▸ hhear _⟩
  | fetch url => exact .inr ⟨by simp, h ▸ hhear _⟩
  | now => exact .inr ⟨by simp, h ▸ hhear _⟩
  | _ => exact .inr ⟨by simp, h ▸ rfl⟩

/-- What is answered to a request other than a commit changes nothing that is
committed. -/
theorem Request.Answered.unchanged {now : DateTime} {r : Request}
    {answer : r.Answer} {after : Store} (h : r.Answered client now s answer after)
    (hrequest : r ≠ .store .commit) : s.Unchanged after := by
  cases r with
  | store request =>
      rcases (Store.served h).committed_or_same with ⟨rfl, -⟩ | ⟨-, hrows, hledger⟩
      · exact absurd rfl hrequest
      · exact ⟨hrows, hledger⟩
  | _ => cases h; exact .refl s

/-- **Alone.**  Work that keeps the contract of a call reaches its goals when it is
alone, and changes what is committed only by commits. -/
theorem Work.Follows.alone {work : Work α} {goal : α → View → Prop}
    (h : work.Follows (protocol app call) goal v) (hagrees : Scene.Agrees ⟨v, s⟩ client) :
    work.Follows (solitary app client)
      (fun a after => goal a after.view ∧ after.Agrees client ∧
      v.commits ≤ after.view.commits ∧
      (after.view.commits = v.commits → s.Unchanged after.store))
      ⟨v, s⟩ := by
  induction work generalizing v s with
  | done a => exact ⟨h, hagrees, Nat.le_refl _, fun _ => .refl s⟩
  | ask r next ih =>
      refine ⟨trivial, ?_⟩
      rintro answer ⟨w, s'⟩ ⟨hreply, hafter, now, hanswer⟩
      refine (ih answer (h.2 answer w hreply) hafter).mono ?_
      rintro a last ⟨hgoal, hlast, hmore, hsame⟩
      rcases View.Reply.commits (v := v) (w := w) hreply
        with ⟨-, hcommits⟩ | ⟨hrequest, hcommits⟩
      · refine ⟨hgoal, hlast, by omega, fun hcount => ?_⟩
        omega
      · refine ⟨hgoal, hlast, by omega, fun hcount => ?_⟩
        exact (hanswer.unchanged hrequest).trans (hsame (by omega))

/-- Nothing happens to the store when the log is told something. -/
theorem solitary_tellLog {event : LogEvent} {goal : Unit → Scene → Prop}
    (h : goal () scene) :
    (tellLog event).Follows (solitary app client) goal scene := by
  refine ⟨trivial, ?_⟩
  rintro answer ⟨w, s'⟩ ⟨hreply, -, now, hanswer⟩
  cases hreply
  cases hanswer
  exact h

/-- A transaction on a label was committed, and what lay on the desk was this. -/
structure Store.Committed (before after : Store) (d : Desk) : Prop where
  row : before.row? d.label = d.row
  past : before.history d.label = d.past
  rowAfter : after.row? d.label = d.rowAfter
  pastAfter : after.history d.label = d.pastAfter
  other : ∀ label, label ≠ d.label →
    after.row? label = before.row? label ∧ after.history label = before.history label

/-- What is known of a transaction when it is over: a deed of the label was committed,
or a step on it has failed and nothing was committed. -/
def TransactionEnds (app : App) (label : Label) (deed : Desk → Outcome → Prop)
    (before : Store) : Except EngineError Outcome → Scene → Prop
  | .ok outcome, after =>
      ∃ d, d.label = label ∧ deed d outcome ∧ before.Committed after.store d
  | .error error, after => before.Unchanged after.store ∧ ∃ d, d.label = label ∧
      before.row? label = d.row ∧ StepFailure app d error

/-- **Transactions of a worker alone.** -/
theorem solitary_inTransaction (call : Call) {attempt : Attempt Outcome}
    {deed : Desk → Outcome → Prop}
    (h : ∀ commits, attempt.Follows (protocol app call) (StepEnds app label commits deed)
      ⟨commits, .begun⟩) :
    (inTransaction attempt).Follows (solitary app client)
      (TransactionEnds app label deed scene.store) scene := by
  change (Work.request (.store .begin) >>= _).Follows _ _ _
  rw [Work.follows_bind, Work.follows_request]
  refine ⟨trivial, ?_⟩
  rintro answer ⟨w, begun⟩ ⟨⟨rfl, rfl⟩, hbegun, now, hanswer⟩
  have hopened : scene.store.Unchanged begun := hanswer.unchanged (by simp)
  rw [Work.follows_bind]
  refine Work.Follows.mono (Work.Follows.alone (h scene.view.commits) hbegun) ?_
  rintro result ⟨w, working⟩ ⟨hends, hworking, -, hsame⟩
  cases result with
  | ok outcome =>
      obtain ⟨d, rfl, rfl, -, hdeed⟩ := hends
      have hunchanged := hopened.trans (hsame rfl)
      have hshown : d.Shown working client := hworking.stance
      rw [settle, Work.follows_bind, Work.follows_request]
      refine ⟨trivial, ?_⟩
      rintro answer ⟨w, after⟩ ⟨⟨rfl, rfl⟩, -, now, hcommit⟩
      cases hcommit
      obtain ⟨hrow, hpast, hother⟩ := hshown.commit hworking.sound
      refine ⟨d, rfl, hdeed, ?_, ?_, hrow, hpast, fun label hlabel => ?_⟩
      · rw [← hunchanged.row?, hshown.row]
      · rw [← hunchanged.history, hshown.past]
      · rw [← hunchanged.row?, ← hunchanged.history]
        exact hother label hlabel
  | error error =>
      obtain ⟨d, rfl, rfl, -, hfailure⟩ := hends
      have hunchanged := hopened.trans (hsame rfl)
      have hshown : d.Shown working client := hworking.stance
      rw [settle, Work.follows_bind, Work.follows_request]
      refine ⟨trivial, ?_⟩
      rintro answer ⟨w, after⟩ ⟨⟨rfl, rfl⟩, -, now, hrollback⟩
      refine ⟨hunchanged.trans (hrollback.unchanged (by simp)), d, rfl, ?_, hfailure⟩
      rw [← hunchanged.row?, hshown.row]

/-! ## In a chronicle -/

variable {past : List Happening} {sys : System} {earlier during : List Moment}
  {start : Moment}

/-- **A call that is alone in a chronicle does what it does alone.** -/
theorem Chronicle.alone {goal : Except EngineError CallResult → Scene → Prop}
    (happ : app.Built) (chronicle : Chronicle app (earlier ++ start :: during) past sys)
    (hstart : start.happening = .called client call)
    (hduring : ∀ m ∈ during, ∃ exchange, m.happening = .said client exchange)
    (h : (call.perform app).run.Follows (solitary app client) goal
      ⟨⟨0, .idle⟩, start.before.store⟩) :
    ∃ rest v, sys.tasks client = some ⟨call, some rest⟩ ∧
      rest.Follows (solitary app client) goal ⟨v, sys.store⟩ := by
  obtain ⟨rest, v, htask, -, hgoal, -⟩ :
      ∃ rest v, sys.tasks client = some ⟨call, some rest⟩ ∧
        rest.Follows (protocol app call) (fun _ after => after.stance = .idle) v ∧
        rest.Follows (solitary app client) goal ⟨v, sys.store⟩ ∧
        v.stance.Agrees sys.store client := by
    refine chronicle.onward (P := fun since _ sys =>
      (∀ m ∈ since, ∃ exchange, m.happening = .said client exchange) →
      ∃ rest v, sys.tasks client = some ⟨call, some rest⟩ ∧
        rest.Follows (protocol app call) (fun _ after => after.stance = .idle) v ∧
        rest.Follows (solitary app client) goal ⟨v, sys.store⟩ ∧
        v.stance.Agrees sys.store client) (fun _ => ?_) ?_ hduring
    · obtain ⟨hbefore, hstep, -⟩ := chronicle.upTo
      generalize start.after = after at hstep ⊢
      rw [hstart] at hstep
      cases hstep with
      | call _ _ hnew =>
          exact ⟨_, ⟨0, .idle⟩, by simp [System.assign],
            Call.perform_follows happ call, h, ((hbefore.faithful happ).uncalled hnew).1⟩
    · intro since past before happening after hbefore hstep hkept hsaid
      obtain ⟨exchange, hexchange⟩ :=
        hsaid _ (List.mem_append_right since List.mem_cons_self)
      obtain rfl : happening = .said client exchange := hexchange
      obtain ⟨rest, v, htask, hfollows, hgoal, hagrees⟩ :=
        hkept fun m hm => hsaid m (List.mem_append_left _ hm)
      have hfaithful := hbefore.faithful happ
      have hsound := (hfaithful.step happ hstep).sound
      cases hstep with
      | @say made r next answer store _ now hasked hanswer =>
          cases htask.symm.trans hasked
          obtain ⟨w, hreply, hafter, -⟩ :=
            answers hagrees hfaithful.sound hfaithful.lawful hfollows.1 hanswer
          exact ⟨next answer, w, by simp [System.assign], hfollows.2 answer w hreply,
            hgoal.2 answer ⟨w, store⟩ ⟨hreply, ⟨hafter, hsound⟩, now, hanswer⟩, hafter⟩
  exact ⟨rest, v, htask, hgoal⟩

end Turnstile
