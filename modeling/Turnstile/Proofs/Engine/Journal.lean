import Turnstile.Proofs.Engine.Solitary

/-!
# Journal of a worker

A call ends several transactions, one after the other.  The protocol `journaling`
remembers them beside what the worker knows: the desks that were committed, in order,
and the desk that was dropped if a transaction has been rolled back since.  Work that
keeps the contract of a call keeps a journal as well (`Work.Follows.journaled`), so the
lemmas about steps can be used here, and `journal_inTransaction` says what a transaction
adds to it.

From the journal one can tell what a demand leaves that fails: it was refused and has
kept nothing, or it has kept the demanded move and the steps before the one that failed
(`journal_forceLabel`).
-/

set_option autoImplicit false

namespace Turnstile

/-- The desk of a worker who has locked a label. -/
def Stance.desk? : Stance → Option Desk
  | .holding d => some d
  | _ => none

/-- What a worker knows, and which transactions it has ended. -/
structure Journal where
  view : View
  /-- The desks that were committed. -/
  kept : List Desk := []
  /-- The desk that was dropped since. -/
  dropped : Option Desk := none

/-- The journal of a worker who begins a call. -/
def Journal.opened : Journal := ⟨⟨0, .idle⟩, [], none⟩

/-- The journal after a request that leads to a view. -/
def Journal.after (j : Journal) (view : View) : Request → Journal
  | .store .commit => ⟨view, j.kept ++ j.view.stance.desk?.toList, none⟩
  | .store .rollback => ⟨view, j.kept, j.view.stance.desk?⟩
  | _ => { j with view := view }

/-- The contract of a call as far as it says how the world answers, with a journal. -/
def journaling (app : App) : Protocol Journal where
  may _ _ := True
  reply j r answer after := j.view.Reply app r answer after.view ∧
    after = j.after after.view r

variable {app : App} {call : Call} {label : Label} {m : Machine} {j : Journal}
  {w : View} {α : Type}
variable {goal : Except EngineError α → Journal → Prop}

/-- A journal follows the view. -/
@[simp] theorem Journal.after_view (j : Journal) (w : View) (r : Request) :
    (j.after w r).view = w := by
  unfold Journal.after
  split <;> rfl

/-- Only commits are kept. -/
theorem Journal.after_kept {r : Request} (h : r ≠ .store .commit) :
    (j.after w r).kept = j.kept := by
  unfold Journal.after
  split
  · exact absurd rfl h
  · rfl
  · rfl

/-- **Journals.**  Work that keeps the contract of a call reaches its goals when it
keeps a journal, and keeps no desk without a commit. -/
theorem Work.Follows.journaled {work : Work α} {goal : α → View → Prop} (j : Journal)
    (h : work.Follows (protocol app call) goal j.view) :
    work.Follows (journaling app) (fun a after => goal a after.view ∧
      j.view.commits ≤ after.view.commits ∧
      (after.view.commits = j.view.commits → after.kept = j.kept)) j := by
  induction work generalizing j with
  | done a => exact ⟨h, Nat.le_refl _, fun _ => rfl⟩
  | ask r next ih =>
      refine ⟨trivial, ?_⟩
      rintro answer after ⟨hreply, hafter⟩
      refine (ih answer after (h.2 answer after.view hreply)).mono ?_
      rintro a last ⟨hgoal, hmore, hkept⟩
      rcases hreply.commits with ⟨-, hcommits⟩ | ⟨hrequest, hcommits⟩
      · exact ⟨hgoal, by omega, fun hcount => by omega⟩
      · refine ⟨hgoal, by omega, fun hcount => ?_⟩
        rw [hkept (by omega), hafter, Journal.after_kept hrequest]

/-! ## Transactions -/

/-- **Transactions.**  What lies on the desk of a transaction is kept when it succeeds,
and dropped when it fails. -/
theorem journal_inTransaction (call : Call) {attempt : Attempt α}
    {inside : Except EngineError α → View → Prop}
    (h : attempt.Follows (protocol app call) inside ⟨j.view.commits, .begun⟩)
    (hcommit : ∀ a after, inside (.ok a) after →
      ∃ d, after = ⟨j.view.commits, .holding d⟩ ∧
      goal (.ok a) ⟨⟨j.view.commits + 1, .idle⟩, j.kept ++ [d], none⟩)
    (hrollback : ∀ error after, inside (.error error) after → ∃ d,
      after = ⟨j.view.commits, .holding d⟩ ∧
      goal (.error error) ⟨⟨j.view.commits, .idle⟩, j.kept, some d⟩) :
    (inTransaction attempt).Follows (journaling app) goal j := by
  change (Work.request (.store .begin) >>= _).Follows _ _ _
  rw [Work.follows_bind, Work.follows_request]
  refine ⟨trivial, ?_⟩
  rintro answer begun ⟨⟨rfl, hview⟩, hbegun⟩
  rw [hview] at hbegun
  subst hbegun
  rw [Work.follows_bind]
  refine Work.Follows.mono (Work.Follows.journaled _ h) ?_
  rintro result ⟨view, kept, dropped⟩ ⟨hinside, -, hkept⟩
  cases result with
  | ok a =>
      obtain ⟨d, rfl, hgoal⟩ := hcommit a view hinside
      obtain rfl : kept = j.kept := hkept rfl
      rw [settle, Work.follows_bind, Work.follows_request]
      refine ⟨trivial, ?_⟩
      rintro answer after ⟨⟨rfl, hview⟩, hafter⟩
      rw [hafter, hview]
      exact hgoal
  | error error =>
      obtain ⟨d, rfl, hgoal⟩ := hrollback error view hinside
      obtain rfl : kept = j.kept := hkept rfl
      rw [settle, Work.follows_bind, Work.follows_request]
      refine ⟨trivial, ?_⟩
      rintro answer after ⟨⟨rfl, hview⟩, hafter⟩
      rw [hafter, hview]
      exact hgoal

/-! ## Drains -/

/-- A step that has moved a label. -/
structure Desk.Moved (app : App) (label : Label) (d : Desk) : Prop where
  label : d.label = label
  deed : ∃ state source target, StepDeed app d state (.moved source target)

/-- A step on a label that has failed. -/
structure Desk.Failed (app : App) (label : Label) (error : EngineError)
    (d : Desk) : Prop where
  label : d.label = label
  lawful : Lawful app d.label d.row d.past
  failure : StepFailure app d error

/-- The journal of a drain that was stopped by an error: after some steps that have
moved the label one has failed.  A label that is found deleted stops no drain. -/
structure Journal.Stopped (app : App) (label : Label) (error : EngineError)
    (j after : Journal) : Prop where
  kept : ∃ steps, after.kept = j.kept ++ steps ∧ ∀ d ∈ steps, d.Moved app label
  dropped : ∃ d, after.dropped = some d ∧ d.Failed app label error
  undeleted : ∀ other, error ≠ .deletedLabel other

/-- A drain that goes on after a step and is stopped later was stopped. -/
theorem Journal.Stopped.after_step {error : EngineError} {d : Desk} {view : View}
    {after : Journal}
    (h : Journal.Stopped app label error ⟨view, j.kept ++ [d], none⟩ after)
    (hmoved : d.Moved app label) :
    Journal.Stopped app label error j after := by
  obtain ⟨steps, hkept, hsteps⟩ := h.kept
  refine ⟨⟨d :: steps, by simp [hkept], fun other hother => ?_⟩, h.dropped, h.undeleted⟩
  rcases List.mem_cons.1 hother with rfl | hlater
  · exact hmoved
  · exact hsteps other hlater

/-- The journal of a drain with a result: it has kept the steps that moved the label,
and one that did not if there was one. -/
def Journal.Drained (app : App) (label : Label) (limit remaining : Nat)
    (summary : DrainSummary) (j after : Journal) : Prop :=
  ∃ (steps : List Desk) (last : Option Desk), after.kept =
    j.kept ++ steps ++ last.toList ∧
    (∀ d ∈ steps, d.Moved app label) ∧
    (∀ d, last = some d → d.label = label ∧ d.added = []) ∧
    summary.steps + remaining = limit + steps.length ∧
    (summary.capped = true → steps.length = remaining)

/-- A drain that goes on after a step and has a result later has the step too. -/
theorem Journal.Drained.after_step {limit remaining : Nat} {summary : DrainSummary}
    {d : Desk} {view : View} {after : Journal}
    (h : Journal.Drained app label limit remaining
      summary ⟨view, j.kept ++ [d], none⟩ after)
    (hmoved : d.Moved app label) :
    Journal.Drained app label limit (remaining + 1) summary j after := by
  obtain ⟨steps, last, hkept, hsteps, hlast, hcount, hcapped⟩ := h
  refine ⟨d :: steps, last, by simp [hkept], ?_, hlast, ?_, ?_⟩
  · intro other hother
    rcases List.mem_cons.1 hother with rfl | hlater
    · exact hmoved
    · exact hsteps other hlater
  · rw [List.length_cons]
    omega
  · intro h
    rw [List.length_cons, hcapped h]

/-- A step that did not move its label has added nothing. -/
theorem Desk.added_of_stayed {d : Desk} {state : State}
    (h : StepDeed app d state .stayed) : d.added = [] := by
  cases h with
  | stayed hidle hquiet hsaved hadded => exact hadded
  | looked hat hsaved hadded hclosed => exact hadded

/-- The journal of a drain, by how it has ended. -/
def Journal.Left (app : App) (label : Label) (limit remaining : Nat) (j : Journal) :
    Except EngineError DrainSummary → Journal → Prop
  | .ok summary, after => j.Drained app label limit remaining summary after
  | .error error, after => j.Stopped app label error after

/-- What a drain leaves from its second step on, it leaves from its first. -/
theorem Journal.Left.after_step {limit remaining : Nat}
    {result : Except EngineError DrainSummary} {d : Desk}
    {view : View} {after : Journal}
    (h : Journal.Left app label limit remaining ⟨view, j.kept ++ [d], none⟩ result after)
    (hmoved : d.Moved app label) :
    Journal.Left app label limit (remaining + 1) j result after := by
  cases result with
  | ok summary => exact Journal.Drained.after_step h hmoved
  | error error => exact Journal.Stopped.after_step h hmoved

/-- **Drains.** -/
theorem journal_drainFrom {limit remaining : Nat}
    (hmachine : app.machine label.machine = .ok m)
    (hlimit : remaining ≤ limit) (j : Journal) :
    (drainFrom app m label limit remaining).Follows (journaling app)
      (j.Left app label limit remaining) j := by
  induction remaining generalizing j with
  | zero =>
      refine Attempt.follows_bind.2 (Attempt.follows_ofWork.2 ⟨trivial, ?_⟩)
      rintro answer after ⟨-, hafter⟩
      exact ⟨[], none, by rw [hafter]; simp [Journal.after], by simp,
        by simp, rfl, fun _ => rfl⟩
  | succ remaining ih =>
      refine Work.follows_bind.2 (journal_inTransaction (.operation (.drain label))
        (stepCurrent_ends (.inl rfl) hmachine) ?_ ?_)
      · rintro outcome after ⟨d, rfl, hlabel, -, state, hdeed⟩
        refine ⟨d, rfl, ?_⟩
        cases outcome with
        | stayed =>
            refine ⟨[], some d, by simp, by simp, ?_, ?_, by simp⟩
            · intro other hother
              cases hother
              exact ⟨hlabel, Desk.added_of_stayed hdeed⟩
            · simp only [List.length_nil]
              omega
        | moved source target =>
            refine (ih (by omega) _).mono fun result after hleft => ?_
            exact hleft.after_step ⟨hlabel, state, source, target, hdeed⟩
      · rintro cause after ⟨d, rfl, hlabel, hlawful, hfailure⟩
        refine ⟨d, rfl, ?_⟩
        split
        · next heq => cases heq
        · next heq => cases heq
        · refine ⟨[], none, by simp, by simp, by simp, ?_, by simp⟩
          simp only [List.length_nil]
          omega
        · next hother heq =>
            cases heq
            exact ⟨⟨[], by simp, by simp⟩, ⟨d, rfl, hlabel, hlawful, hfailure⟩, hother⟩

/-- A drain leaves what it leaves from its first step on. -/
theorem journal_drain (hmachine : app.machine label.machine = .ok m) (j : Journal) :
    (drain app label).Follows (journaling app)
      (j.Left app label app.settings.maxTransitions app.settings.maxTransitions) j := by
  unfold drain
  rw [hmachine]
  exact Attempt.follows_bind.2 (journal_drainFrom hmachine (Nat.le_refl _) j)

/-! ## Demands -/

/-- What an operation is refused for before it has written anything: a machine, a state
or a label that is unknown, or a label that was deleted. -/
inductive EngineError.Refusal : EngineError → Prop
  | unknownMachine (name : String) : Refusal (.unknownMachine name)
  | unknownState (machine state : String) : Refusal (.unknownState machine state)
  | unknownLabel (label : Label) : Refusal (.unknownLabel label)
  | deletedLabel (label : Label) : Refusal (.deletedLabel label)

/-- A machine that is not there is a reason to refuse. -/
theorem App.refusal_of_machine {name : String} {error : EngineError}
    (h : app.machine name = .error error) : error.Refusal := by
  unfold App.machine at h
  split at h <;> cases h
  exact .unknownMachine _

/-- Likewise a state that the machine has not. -/
theorem Machine.refusal_of_stateNamed {state : String} {error : EngineError}
    (h : m.stateNamed state = .error error) : error.Refusal := by
  unfold Machine.stateNamed at h
  split at h <;> cases h
  exact .unknownState _ _

/-- The journal of a demand that has failed.  Either it was refused, and nothing is
kept; or the demanded move is kept, and the drain after it was stopped. -/
inductive Journal.DemandFailed (app : App) (label : Label) (state : String)
    (error : EngineError) (after : Journal) : Prop
  | refused (hrefusal : error.Refusal) (hkept : after.kept = [])
  | stopped {view : View} {first : Desk} (hlabel : first.label = label)
      (hdemanded : first.Demanded app state)
      (hstopped : Journal.Stopped app label error ⟨view, [first], none⟩ after)

/-- A demanded move is staged, or the label is not live. -/
theorem stageDemand_refuses {state : String} {v : View} (hv : v.Ready app label) :
    (stageDemand label state).Follows (protocol app call)
      (fun result _ => ∀ error, result = .error error → error.Refusal) v := by
  refine Attempt.follows_bind.2
    (follows_lockLive_cases hv (fun _ _ _ => ?_) (fun _ _ _ _ _ => ?_)
      fun d row hopens _ => ?_)
  · rintro error ⟨⟩
    exact .unknownLabel _
  · rintro error ⟨⟩
    exact .deletedLabel _
  · refine Attempt.follows_bind.2
      (follows_appendMove hopens.label hopens.added fun entry _ => ?_)
    rintro error ⟨⟩

/-- **Demands.** -/
theorem journal_forceLabel (label : Label) (state : String) :
    (forceLabel app label state).Follows (journaling app)
      (fun result after => ∀ error, result = .error error →
        Journal.DemandFailed app label state error after)
      .opened := by
  refine Attempt.follows_bind.2 (Attempt.follows_ofExcept.2 ?_)
  cases hmachine : app.machine label.machine with
  | error cause =>
      rintro error ⟨⟩
      exact .refused (App.refusal_of_machine hmachine) rfl
  | ok m =>
      refine Attempt.follows_bind.2 (Attempt.follows_ofExcept.2 ?_)
      cases hstate : m.stateNamed state with
      | error cause =>
          rintro error ⟨⟩
          exact .refused (Machine.refusal_of_stateNamed hstate) rfl
      | ok found =>
          have hknown : (m.state? state).isSome := by
            obtain ⟨hfound, rfl⟩ := Machine.mem_of_stateNamed hstate
            exact Machine.state?_isSome_of_mem (List.mem_map_of_mem hfound)
          have hstaged := Work.Follows.and (stageDemand_ends hmachine hknown)
            (stageDemand_refuses (.inl rfl))
          refine Attempt.follows_bind.2
            (journal_inTransaction (.operation (.force label state)) hstaged ?_ ?_)
          · rintro _ after ⟨⟨d, rfl, ⟨hlabel, hdemanded⟩, -⟩, -⟩
            refine ⟨d, rfl, Attempt.follows_bind.2 ((journal_drain hmachine _).mono ?_)⟩
            intro result after hleft
            cases result with
            | ok summary => rintro error ⟨⟩
            | error cause =>
                rintro error ⟨⟩
                exact .stopped hlabel hdemanded hleft
          · rintro cause after ⟨⟨d, rfl, -⟩, hrefusal⟩
            refine ⟨d, rfl, ?_⟩
            rintro error ⟨⟩
            exact .refused (hrefusal cause rfl) rfl

end Turnstile
