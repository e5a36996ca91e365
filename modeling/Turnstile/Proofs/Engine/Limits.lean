import Turnstile.Proofs.Engine.Atomicity
import Turnstile.Proofs.Engine.Resumption

/-!
# The limit of a drain

A drain makes steps one after the other, until one does not move the label or as many
were made as the limit says (`Drained`).  Whatever the store and the surroundings
answer, the moves that it was granted are counted by its result, and the warning is
given once if they are as many as the limit and not otherwise (`drain_withinLimit`).
-/

set_option autoImplicit false

namespace Turnstile

variable {app : App} {m : Machine} {label : Label} {limit remaining : Nat}
  {talk : List Exchange} {result : Except EngineError DrainSummary}

/-! ## The conversation of a drain -/

/-- Whoever asks allowed requests only has a conversation of allowed requests. -/
theorem Work.Asks.allowed_of_leads {α : Type} {allowed : Request → Prop}
    {work rest : Work α} (h : work.Asks allowed) (hleads : work.Leads talk rest) :
    ∀ exchange ∈ talk, allowed exchange.request := by
  induction hleads with
  | here => simp
  | said _ ih =>
      cases h with
      | ask hr hnext =>
          intro exchange hexchange
          rcases List.mem_cons.1 hexchange with rfl | hlater
          · exact hr
          · exact ih (hnext _) exchange hlater

/-- The conversation of a drain that may make so many more steps, and its result. -/
inductive Drained (app : App) (m : Machine) (label : Label) (limit : Nat) :
    Nat → List Exchange → Except EngineError DrainSummary → Prop
  /-- As many steps were made as the limit says. -/
  | ended : Drained app m label limit 0
      [⟨.log (limitWarning label limit), ()⟩] (.ok ⟨limit, true⟩)
  /-- A step moves the label, and the drain goes on. -/
  | moved {remaining : Nat} {step talk : List Exchange} {source target : String}
      {result : Except EngineError DrainSummary}
      (hstep : (inTransaction (stepCurrent app m label)).run.Leads step
        (.done (.ok (.moved source target))))
      (hrest : Drained app m label limit remaining talk result) :
      Drained app m label limit (remaining + 1) (step ++ talk) result
  /-- A step comes to something else. -/
  | rested {remaining : Nat} {step : List Exchange} {outcome : Except EngineError Outcome}
      (hstep : (inTransaction (stepCurrent app m label)).run.Leads step (.done outcome))
      (hrest : Rests outcome) :
      Drained app m label limit (remaining + 1) step
        (restedAs (limit - (remaining + 1)) outcome)

/-- Whatever a drain is answered, it is one that `Drained` tells of. -/
theorem drained_of_leads
    (h : (drainFrom app m label limit remaining).run.Leads talk (.done result)) :
    Drained app m label limit remaining talk result := by
  induction remaining generalizing talk with
  | zero =>
      rcases Work.leads_ask.1 h with ⟨-, hnever⟩ | ⟨answer, more, rfl, hmore⟩
      · cases hnever
      · obtain ⟨rfl, hsame⟩ := Work.leads_done.1 hmore
        cases hsame
        exact .ended
  | succ remaining ih =>
      obtain ⟨outcome, step, back, rfl, hstep, hback⟩ := Work.leads_bind_done h
      rcases moved_or_rests outcome with ⟨source, target, rfl⟩ | hrest
      · exact .moved hstep (ih hback)
      · have hrested : back = [] ∧
            result = restedAs (limit - (remaining + 1)) outcome := by
          cases outcome with
          | ok outcome =>
              cases outcome with
              | moved source target => exact absurd rfl (hrest source target)
              | stayed =>
                  obtain ⟨rfl, hsame⟩ := Work.leads_done.1 hback
                  cases hsame
                  exact ⟨rfl, rfl⟩
          | error error =>
              cases error <;>
                · obtain ⟨rfl, hsame⟩ := Work.leads_done.1 hback
                  cases hsame
                  exact ⟨rfl, rfl⟩
        obtain ⟨rfl, rfl⟩ := hrested
        rw [List.append_nil]
        exact .rested hstep hrest

/-! ## Grants and warnings -/

/-- What a step in a transaction of its own is granted. -/
def grantedBy (label : Label) : Except EngineError Outcome → List (List Move)
  | .ok (.moved source target) => [[.transition label source target]]
  | .ok .stayed => [[]]
  | .error _ => []

/-- A step is granted its move if it has moved the label, and no move otherwise. -/
theorem granted_step {step : List Exchange} {outcome : Except EngineError Outcome}
    (h : (inTransaction (stepCurrent app m label)).run.Leads step (.done outcome))
    (g : Grants) :
    (step.foldl Grants.after g).granted = g.granted ++ grantedBy label outcome := by
  have hfollows : (inTransaction (stepCurrent app m label)).Follows granting
      (fun outcome after => after.granted = g.granted ++ grantedBy label outcome) g := by
    apply granted_inTransaction stages_stepCurrent
    · intro outcome moves hmoves
      cases outcome with
      | moved source target =>
          obtain rfl : moves = _ := hmoves
          rfl
      | stayed =>
          obtain rfl : moves = [] := hmoves
          rfl
    · intro error after hafter
      simpa [grantedBy] using hafter
  exact Work.Follows.granted hfollows h

/-- Whether it is the warning that a label has made as many steps as the limit says. -/
def Exchange.warns (label : Label) (limit : Nat) (exchange : Exchange) : Bool :=
  match exchange.request with
  | .log event => event = limitWarning label limit
  | _ => false

/-- How often it was warned. -/
def warnings (label : Label) (limit : Nat) (talk : List Exchange) : Nat :=
  talk.countP (Exchange.warns label limit)

/-- A step does not warn of the limit. -/
theorem Request.OfStep.warns {r : Request} (h : r.OfStep) (answer : r.Answer) :
    Exchange.warns label limit ⟨r, answer⟩ = false := by
  cases h with
  | store request => rfl
  | rollbackFailed refusal => simp [Exchange.warns, rollbackWarning, limitWarning]
  | outward h =>
      cases r with
      | log event => exact h.elim
      | _ => rfl

variable (limit) in
/-- Steps give no warning of the limit. -/
theorem warnings_step {step : List Exchange} {outcome : Except EngineError Outcome}
    (h : (inTransaction (stepCurrent app m label)).run.Leads step (.done outcome)) :
    warnings label limit step = 0 := by
  apply List.countP_eq_zero.2
  intro exchange hexchange
  have hasked :=
    (asks_inTransaction asks_stepCurrent).allowed_of_leads h exchange hexchange
  simpa using hasked.warns exchange.answer

/-- What a drain that may make so many more steps was granted and has told the log. -/
structure Drained.Sums (app : App) (m : Machine) (label : Label) (limit remaining : Nat)
    (talk : List Exchange) (result : Except EngineError DrainSummary)
    (moves : List Move) : Prop where
  granted : ∀ g : Grants, (talk.foldl Grants.after g).granted.flatten =
    g.granted.flatten ++ moves
  earned : ∀ move ∈ moves, ∃ source target, move = .transition label source target
  /-- The limit has ended it, or it came to rest before. -/
  ended : moves.length = remaining ∧ result = .ok ⟨limit, true⟩ ∧
    warnings label limit talk = 1 ∨
    moves.length < remaining ∧ warnings label limit talk = 0 ∧
      ∃ earlier last outcome, talk = earlier ++ last ∧
      (inTransaction (stepCurrent app m label)).run.Leads last (.done outcome) ∧
      Rests outcome ∧ result = restedAs (limit - remaining + moves.length) outcome

/-- **The sums of a drain.** -/
theorem Drained.sums (h : Drained app m label limit remaining talk result)
    (hlimit : remaining ≤ limit) :
    ∃ moves, Drained.Sums app m label limit remaining talk result moves := by
  induction h with
  | ended =>
      refine ⟨[], by simp [Grants.after], by simp, .inl ⟨rfl, rfl, ?_⟩⟩
      simp [warnings, Exchange.warns]
  | @rested remaining step outcome hstep hrest =>
      have hgranted : (grantedBy label outcome).flatten = [] := by
        cases outcome with
        | error error => rfl
        | ok outcome =>
            cases outcome with
            | stayed => rfl
            | moved source target => exact absurd rfl (hrest source target)
      refine ⟨[], ?_, by simp,
        .inr ⟨Nat.succ_pos _, warnings_step limit hstep, [], step, outcome, rfl,
          hstep, hrest, rfl⟩⟩
      intro g
      rw [granted_step hstep, List.flatten_append, hgranted]
  | @moved remaining step talk source target result hstep hrest ih =>
      obtain ⟨moves, hsums⟩ := ih (by omega)
      refine ⟨.transition label source target :: moves, ?_, ?_, ?_⟩
      · intro g
        rw [List.foldl_append, hsums.granted, granted_step hstep]
        simp [grantedBy]
      · intro move hmove
        rcases List.mem_cons.1 hmove with rfl | hlater
        · exact ⟨source, target, rfl⟩
        · exact hsums.earned move hlater
      · have hwarnings :
            warnings label limit (step ++ talk) = warnings label limit talk := by
          have hnone := warnings_step limit hstep
          unfold warnings at *
          rw [List.countP_append, hnone, Nat.zero_add]
        rw [hwarnings, List.length_cons]
        rcases hsums.ended with ⟨hlength, hresult, hwarned⟩ |
          ⟨hlength, hwarned, earlier, last, outcome, rfl, hlast, hrests, hresult⟩
        · exact .inl ⟨by omega, hresult, hwarned⟩
        · refine .inr ⟨by omega, hwarned, step ++ earlier, last, outcome,
            by simp, hlast, hrests, ?_⟩
          rw [hresult]
          congr 1
          omega

/-- What was granted to a drain, what it has told the log, and its result. -/
structure WithinLimit (app : App) (m : Machine) (label : Label) (limit : Nat)
    (talk : List Exchange) (result : Except EngineError DrainSummary) : Prop where
  /-- The moves that were appended were earned by the label, and they are not more than
  the limit says. -/
  earned : ∀ move ∈ (grantsOf talk).granted.flatten,
    ∃ source target, move = .transition label source target
  bounded : (grantsOf talk).granted.flatten.length ≤ limit
  /-- The result counts them. -/
  counted : ∀ summary, result = .ok summary →
    summary.steps = (grantsOf talk).granted.flatten.length
  /-- The limit has ended the drain if they are as many as it says, and not otherwise. -/
  capped : (∃ summary, result = .ok summary ∧ summary.capped = true) ↔
    (grantsOf talk).granted.flatten.length = limit
  /-- It is warned once then, and not otherwise. -/
  warned : warnings label limit talk = if (grantsOf talk).granted.flatten.length =
    limit then 1 else 0
  /-- If the limit has not ended the drain, its last step did not move the label, or
  found it deleted. -/
  rested : ∀ steps, result = .ok ⟨steps, false⟩ →
    ∃ earlier last outcome, talk = earlier ++ last ∧
    (inTransaction (stepCurrent app m label)).run.Leads last (.done outcome) ∧
    (outcome = .ok .stayed ∨ ∃ other, outcome = .error (.deletedLabel other))

/-- A drain comes to rest without an error when a step does not move the label, or finds
it deleted. -/
theorem restedAs_eq_ok {steps : Nat} {outcome : Except EngineError Outcome}
    {summary : DrainSummary} (hrest : Rests outcome)
    (h : restedAs steps outcome = .ok summary) :
    summary = ⟨steps, false⟩ ∧
    (outcome = .ok .stayed ∨ ∃ other, outcome = .error (.deletedLabel other)) := by
  cases outcome with
  | ok outcome =>
      cases h
      cases outcome with
      | stayed => exact ⟨rfl, .inl rfl⟩
      | moved source target => exact absurd rfl (hrest source target)
  | error error =>
      cases error with
      | deletedLabel other =>
          cases h
          exact ⟨rfl, .inr ⟨other, rfl⟩⟩
      | _ => cases h

/-- **The limit of a drain.**  Whatever it is answered, a drain keeps within its limit. -/
theorem drain_withinLimit (hmachine : app.machine label.machine = .ok m)
    (hleads : (drain app label).run.Leads talk (.done result)) :
    WithinLimit app m label app.settings.maxTransitions talk result := by
  generalize hlimit : app.settings.maxTransitions = limit at *
  have hdrained : Drained app m label limit limit talk result := by
    unfold drain at hleads
    rw [hmachine, hlimit] at hleads
    exact drained_of_leads hleads
  obtain ⟨moves, hsums⟩ := hdrained.sums (Nat.le_refl limit)
  obtain rfl : (grantsOf talk).granted.flatten = moves := hsums.granted {}
  rcases hsums.ended with ⟨hlength, rfl, hwarned⟩ |
    ⟨hlength, hwarned, earlier, last, outcome, htalk, hlast, hrest, hresult⟩
  · constructor
    · exact hsums.earned
    · omega
    · intro summary hsummary
      cases hsummary
      exact hlength.symm
    · exact ⟨fun _ => hlength, fun _ => ⟨_, rfl, rfl⟩⟩
    · rw [hwarned, if_pos hlength]
    · intro steps hsteps
      cases hsteps
  · rw [Nat.sub_self, Nat.zero_add] at hresult
    constructor
    · exact hsums.earned
    · omega
    · intro summary hsummary
      rw [hresult] at hsummary
      rw [(restedAs_eq_ok hrest hsummary).1]
    · constructor
      · rintro ⟨summary, hsummary, hcapped⟩
        rw [hresult] at hsummary
        rw [(restedAs_eq_ok hrest hsummary).1] at hcapped
        cases hcapped
      · intro hfull
        omega
    · rw [hwarned, if_neg (by omega)]
    · intro steps hsteps
      rw [hresult] at hsteps
      exact ⟨earlier, last, outcome, htalk, hlast, (restedAs_eq_ok hrest hsteps).2⟩

end Turnstile
