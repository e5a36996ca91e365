import Turnstile.Engine.Operation
import Turnstile.Proofs.Engine.Conversation
import Turnstile.Proofs.Engine.Protocol

/-!
# What the store has granted

A store may refuse any request, be it a lock, a commit or a rollback.  Whatever it
answers, a worker knows which of its commits were granted, and which moves it had staged
in each of those transactions (`Grants`).

`Attempt.Stages` says of an attempt that it ends no transaction, and which moves it has
staged if it succeeds; it composes with the work, so each function of the engine has one
lemma.  From `granted_inTransaction` it then follows what an operation that fails was
granted: nothing if it creates, updates or deletes a label (`granted_createLabel`,
`granted_updateLabel`, `granted_deleteLabel`), and nothing or the demanded move and the
steps before the failure if it forces one (`granted_forceLabel`).
-/

set_option autoImplicit false

namespace Turnstile

/-- The transactions of a worker, as far as it was told. -/
structure Grants where
  /-- For each transaction whose commit was granted, the moves that were staged in it. -/
  granted : List (List Move) := []
  /-- The moves that were staged since a transaction was last begun or committed. -/
  staged : List Move := []

/-- What is known to be granted after one more exchange. -/
def Grants.after (g : Grants) : Exchange → Grants
  | ⟨.store .begin, _⟩ => { g with staged := [] }
  | ⟨.store (.append move), .ok _⟩ => { g with staged := g.staged ++ [move] }
  | ⟨.store .commit, .ok _⟩ => ⟨g.granted ++ [g.staged], []⟩
  | _ => g

/-- What was granted in a conversation. -/
def grantsOf (talk : List Exchange) : Grants := talk.foldl Grants.after {}

/-- Grants grow with each exchange. -/
@[simp] theorem grantsOf_append (talk : List Exchange) (exchange : Exchange) :
    grantsOf (talk ++ [exchange]) = (grantsOf talk).after exchange := by
  simp [grantsOf]

/-- The protocol of a world that answers as it likes. -/
def granting : Protocol Grants where
  may _ _ := True
  reply g r answer after := after = g.after ⟨r, answer⟩

variable {α β : Type} {app : App} {m : Machine} {label : Label} {g : Grants}

/-- What is true of all answers is true of every conversation. -/
theorem Work.Follows.granted {work : Work α} {goal : α → Grants → Prop}
    (h : work.Follows granting goal g) {talk : List Exchange} {a : α}
    (hleads : work.Leads talk (.done a)) :
    goal a (talk.foldl Grants.after g) := by
  induction work generalizing g talk with
  | done b =>
      obtain ⟨rfl, hsame⟩ := Work.leads_done.1 hleads
      cases hsame
      exact h
  | ask r next ih =>
      rcases Work.leads_ask.1 hleads with ⟨-, hnever⟩ | ⟨answer, more, rfl, hmore⟩
      · cases hnever
      · exact ih answer (h.2 answer _ rfl) hmore

/-- Every world answers as it likes. -/
theorem follows_granting (work : Work α) (g : Grants) :
    work.Follows granting (fun _ _ => True) g := by
  induction work generalizing g with
  | done a => trivial
  | ask r next ih => exact ⟨trivial, fun answer after _ => ih answer after⟩

/-! ## Work that is granted nothing -/

/-- However it is answered, the work changes nothing of what was granted or staged. -/
def Work.Quiet (work : Work α) : Prop :=
  ∀ g, work.Follows granting (fun _ after => after = g) g

namespace Work.Quiet

theorem pure (a : α) : (Pure.pure a : Work α).Quiet := fun _ => rfl

theorem request {r : Request} (hquiet : ∀ g answer, Grants.after g ⟨r, answer⟩ = g) :
    (Work.request r).Quiet :=
  fun g => ⟨trivial, fun answer _ hafter => hafter.trans (hquiet g answer)⟩

theorem bind {work : Work α} {next : α → Work β} (hfirst : work.Quiet)
    (hnext : ∀ a, (next a).Quiet) :
    (work >>= next).Quiet := by
  intro g
  refine Work.follows_bind.2 ((hfirst g).mono ?_)
  rintro a _ rfl
  exact hnext a _

end Work.Quiet

/-! ## Attempts within a transaction -/

/-- However it is answered, the attempt is granted nothing, and if it succeeds the moves
that it has staged are so. -/
def Attempt.Stages (attempt : Attempt α) (shape : α → List Move → Prop) : Prop :=
  ∀ g, attempt.Follows granting (fun result after => after.granted = g.granted ∧
    ∀ a, result = .ok a → ∃ moves, after.staged = g.staged ++ moves ∧ shape a moves) g

/-- The attempt stages no move. -/
abbrev Attempt.Quiet (attempt : Attempt α) : Prop :=
  attempt.Stages fun _ moves => moves = []

namespace Attempt.Stages

variable {shape : α → List Move → Prop}

theorem pure {a : α} (h : shape a []) : (Pure.pure a : Attempt α).Stages shape := by
  refine fun g => ⟨rfl, ?_⟩
  rintro _ ⟨⟩
  exact ⟨[], by simp, h⟩

theorem throw (error : EngineError) :
    (MonadExcept.throw error : Attempt α).Stages shape :=
  fun _ => ⟨rfl, by rintro _ ⟨⟩⟩

/-- Attempts in sequence stage the moves of the first and then those of the second. -/
theorem bind {before : β → List Move → Prop} {first : Attempt β} {next : β → Attempt α}
    (hfirst : first.Stages before)
    (hnext : ∀ b moves, before b moves →
      (next b).Stages fun a more => shape a (moves ++ more)) :
    (first >>= next).Stages shape := by
  refine fun g => Attempt.follows_bind.2 ((hfirst g).mono ?_)
  rintro result middle ⟨hgranted, hstaged⟩
  cases result with
  | error error => exact ⟨hgranted, by rintro _ ⟨⟩⟩
  | ok b =>
      obtain ⟨moves, hmoves, hbefore⟩ := hstaged b rfl
      refine (hnext b moves hbefore middle).mono ?_
      rintro result after ⟨hafter, hmore⟩
      refine ⟨hafter.trans hgranted, fun a ha => ?_⟩
      obtain ⟨more, hlast, hshape⟩ := hmore a ha
      exact ⟨moves ++ more, by rw [hlast, hmoves, List.append_assoc], hshape⟩

/-- After what stages nothing, all moves are those of the rest. -/
theorem after_quiet {first : Attempt β} {next : β → Attempt α} (hfirst : first.Quiet)
    (hnext : ∀ b, (next b).Stages shape) : (first >>= next).Stages shape := by
  refine bind hfirst ?_
  rintro b _ rfl
  exact hnext b

theorem ofWork {work : Work α} (h : work.Quiet) : (Attempt.ofWork work).Quiet := by
  refine fun g => Attempt.follows_ofWork.2 ((h g).mono ?_)
  rintro a _ rfl
  exact ⟨rfl, fun _ _ => ⟨[], by simp, rfl⟩⟩

theorem ofExcept {ε : Type} {wrap : ε → EngineError} {result : Except ε α} :
    (Attempt.ofExcept wrap result).Quiet := fun _ => ⟨rfl, fun _ _ => ⟨[], by simp, rfl⟩⟩

theorem ofStore {request : StoreRequest}
    (hquiet : ∀ g answer, Grants.after g ⟨.store request, answer⟩ = g) :
    (Attempt.ofStore request).Quiet := by
  refine fun g => Attempt.follows_ofStore.2 ⟨trivial, ?_⟩
  rintro answer after hafter
  rw [hafter.trans (hquiet g answer)]
  exact ⟨rfl, fun _ _ => ⟨[], by simp, rfl⟩⟩

end Attempt.Stages

open Attempt (Stages)

/-! ## Steps -/

/-- Appending a move stages it. -/
theorem stages_appendMove (move : Move) :
    (appendMove move).Stages fun _ moves => moves = [move] := by
  refine fun g => Attempt.follows_ofStore.2 ⟨trivial, ?_⟩
  rintro answer after rfl
  cases answer with
  | ok entry => exact ⟨rfl, fun _ _ => ⟨[move], rfl, rfl⟩⟩
  | error refusal => exact ⟨rfl, by rintro _ ⟨⟩⟩

theorem quiet_lockRow (label : Label) : (lockRow label).Quiet := .ofStore fun _ _ => rfl

theorem quiet_saveRow (row : Record) : (saveRow row).Quiet := .ofStore fun _ _ => rfl

theorem quiet_readOwnHistory (label : Label) : (readOwnHistory label).Quiet :=
  .after_quiet (.ofStore fun _ _ => rfl) fun _ => .pure rfl

/-- Locking grants nothing. -/
theorem quiet_lockLive (label : Label) : (lockLive label).Quiet := by
  refine .after_quiet (quiet_lockRow label) fun row => ?_
  split
  · exact .throw _
  · split
    · exact .throw _
    · exact .after_quiet (quiet_readOwnHistory label) fun _ => .pure rfl

theorem quiet_markProcessed (row : Record) : (markProcessed row).Quiet := by
  unfold markProcessed
  split
  · exact .pure rfl
  · exact quiet_saveRow _

/-- Gathering feeds grants nothing, whatever is fetched. -/
theorem quiet_gatherFeeds (names : List String) (context : Context) :
    (gatherFeeds m context names).Quiet := by
  induction names generalizing context with
  | nil => exact .pure _
  | cons name rest ih =>
      rw [gatherFeeds]
      split
      · exact .pure _
      · refine .bind (.request fun _ _ => rfl) fun _ =>
          .bind (.request fun _ _ => rfl) fun answer => ?_
        cases answer with
        | error error => exact .bind (.request fun _ _ => rfl) fun _ => .pure _
        | ok document => exact .bind (.request fun _ _ => rfl) fun _ => ih _

/-- Deliveries grant nothing by themselves. -/
theorem quiet_deliver (action : Action) (metadata : Value) (entry : Entry) :
    (deliver m action label metadata entry).Quiet :=
  .bind (.request fun _ _ => rfl) fun _ => .bind (.request fun _ _ => rfl) fun _ =>
    .bind (.request fun _ _ => rfl) fun _ => .pure _

/-- What a step stages: its move, if the label has moved. -/
def Outcome.Moves (label : Label) : Outcome → List Move → Prop
  | .stayed, moves => moves = []
  | .moved source target, moves => moves = [.transition label source target]

/-- Leaving a state stages the move of its outcome. -/
theorem stages_leave (source : String) (route : Route) (context : Context) :
    (leave label source route context).Stages (Outcome.Moves label) := by
  refine .after_quiet .ofExcept fun target => .bind (stages_appendMove _) ?_
  rintro _ _ rfl
  exact .pure rfl

/-- The step of a gate stages the move it reports, or none. -/
theorem stages_stepGate (gate : Gate) :
    (stepGate m gate label).Stages (Outcome.Moves label) := by
  refine .after_quiet (quiet_lockLive label) fun live => ?_
  obtain ⟨row, history⟩ := live
  dsimp only
  split
  · exact .pure rfl
  refine .after_quiet (quiet_markProcessed row) fun _ => ?_
  split
  · exact .pure rfl
  refine .after_quiet (.ofWork (.request fun _ _ => rfl)) fun now =>
    .after_quiet (.ofWork (quiet_gatherFeeds _ _)) fun gathered =>
    .after_quiet .ofExcept fun context => .after_quiet .ofExcept fun passed => ?_
  split
  · exact stages_leave _ _ _
  · exact .pure rfl

/-- So does the step of an action. -/
theorem stages_stepAction (action : Action) :
    (stepAction app m action label).Stages (Outcome.Moves label) := by
  refine .after_quiet (quiet_lockLive label) fun live => ?_
  obtain ⟨row, history⟩ := live
  dsimp only
  split
  · exact .pure rfl
  split
  · exact .pure rfl
  split
  · exact .throw _
  refine .after_quiet (.ofWork (quiet_deliver _ _ _)) fun result => ?_
  cases result with
  | success => exact stages_leave _ _ _
  | retry => exact .pure rfl
  | fail => exact .pure rfl

/-- And the step of whichever state the label is in. -/
theorem stages_stepCurrent : (stepCurrent app m label).Stages (Outcome.Moves label) := by
  refine .after_quiet (quiet_lockLive label) fun live => ?_
  obtain ⟨row, history⟩ := live
  dsimp only
  split
  · exact .throw _
  · refine .after_quiet .ofExcept fun state => ?_
    cases state with
    | gate gate => exact stages_stepGate gate
    | action action => exact stages_stepAction action

/-! ## Transactions and drains -/

/-- **Transactions.**  A transaction that succeeds is granted what was staged in it, and
one that fails is granted nothing. -/
theorem granted_inTransaction {attempt : Attempt α} {shape : α → List Move → Prop}
    {goal : Except EngineError α → Grants → Prop} (h : attempt.Stages shape)
    (hok : ∀ a moves, shape a moves → goal (.ok a) ⟨g.granted ++ [moves], []⟩)
    (herror : ∀ error after, after.granted = g.granted → goal (.error error) after) :
    (inTransaction attempt).Follows granting goal g := by
  change (Work.request (.store .begin) >>= _).Follows _ _ _
  rw [Work.follows_bind, Work.follows_request]
  refine ⟨trivial, ?_⟩
  rintro begun _ rfl
  cases begun with
  | error refusal => exact herror _ _ rfl
  | ok _ =>
      refine Work.follows_bind.2 (Work.Follows.mono (h _) ?_)
      rintro result after ⟨hgranted, hstaged⟩
      cases result with
      | ok a =>
          rw [settle, Work.follows_bind, Work.follows_request]
          refine ⟨trivial, ?_⟩
          rintro ended _ rfl
          cases ended with
          | ok _ =>
              obtain ⟨moves, hmoves, hshape⟩ := hstaged a rfl
              have hafter : after = ⟨g.granted, moves⟩ := by
                cases after
                cases hgranted
                cases hmoves
                rfl
              rw [hafter]
              exact hok a moves hshape
          | error refusal => exact herror _ _ hgranted
      | error error =>
          rw [settle, Work.follows_bind, Work.follows_request]
          refine ⟨trivial, ?_⟩
          rintro ended _ rfl
          cases ended with
          | ok _ => exact herror _ _ hgranted
          | error refusal =>
              refine ⟨trivial, ?_⟩
              rintro _ _ rfl
              exact herror _ _ hgranted

/-- Each of these transactions has moved the label on. -/
def Onward (label : Label) (steps : List (List Move)) : Prop :=
  ∀ moves ∈ steps, ∃ source target, moves = [.transition label source target]

/-- **Drains.**  A drain that fails was granted the steps before the one that failed. -/
theorem granted_drainFrom (limit remaining : Nat) (g : Grants) :
    (drainFrom app m label limit remaining).Follows granting
      (fun result after => ∀ error, result = .error error →
        ∃ steps, after.granted = g.granted ++ steps ∧ Onward label steps) g := by
  induction remaining generalizing g with
  | zero =>
      refine Attempt.follows_bind.2 (Attempt.follows_ofWork.2 ⟨trivial, ?_⟩)
      rintro _ _ - _ ⟨⟩
  | succ remaining ih =>
      refine Work.follows_bind.2 (granted_inTransaction stages_stepCurrent ?_ ?_)
      · rintro outcome moves hmoves
        cases outcome with
        | stayed => rintro _ ⟨⟩
        | moved source target =>
            refine (ih _).mono fun result after hsteps error herror => ?_
            obtain ⟨steps, hgranted, honward⟩ := hsteps error herror
            refine ⟨moves :: steps, by simp [hgranted], fun other hother => ?_⟩
            rcases List.mem_cons.1 hother with rfl | hlater
            · exact ⟨source, target, hmoves⟩
            · exact honward other hlater
      · rintro cause after hgranted
        split
        · next heq => cases heq
        · next heq => cases heq
        · rintro _ ⟨⟩
        · rintro _ ⟨⟩
          exact ⟨[], by simp [hgranted], by simp [Onward]⟩

/-- Drains that fail have been granted the moves of the steps before. -/
theorem granted_drain (g : Grants) :
    (drain app label).Follows granting
      (fun result after => ∀ error, result = .error error →
      ∃ steps, after.granted = g.granted ++ steps ∧ Onward label steps) g := by
  refine Attempt.follows_bind.2 (Attempt.follows_ofExcept.2 ?_)
  cases app.machine label.machine with
  | error cause => exact fun _ _ => ⟨[], by simp, by simp [Onward]⟩
  | ok m => exact granted_drainFrom _ _ g

/-! ## Operations -/

/-- If the attempt fails, this is so of what was granted. -/
def Attempt.FailsWith (attempt : Attempt α) (goal : Grants → Prop) (g : Grants) : Prop :=
  attempt.Follows granting
    (fun result after => ∀ error, result = .error error → goal after) g

namespace Attempt.FailsWith

variable {goal : Grants → Prop}

theorem pure (a : α) : (Pure.pure a : Attempt α).FailsWith goal g := by
  rintro _ ⟨⟩

theorem throw {error : EngineError} (h : goal g) :
    (MonadExcept.throw error : Attempt α).FailsWith goal g := fun _ _ => h

theorem ofExcept_bind {ε : Type} {wrap : ε → EngineError} {result : Except ε β}
    {next : β → Attempt α} (h : goal g) (hnext : ∀ b, (next b).FailsWith goal g) :
    (Attempt.ofExcept wrap result >>= next).FailsWith goal g := by
  refine Attempt.follows_bind.2 ?_
  cases result with
  | ok b => exact hnext b
  | error cause => exact fun _ _ => h

/-- Work that cannot fail does not make what comes after it fail. -/
theorem ofWork_bind {work : Work β} {a : α} :
    (do let _ ← Attempt.ofWork work; Pure.pure a : Attempt α).FailsWith goal g :=
  Attempt.follows_bind.2 (Attempt.follows_ofWork.2
    ((follows_granting work g).mono fun _ _ _ => pure a))

theorem map {attempt : Attempt α} (h : attempt.FailsWith goal g) (wrap : α → β) :
    (do let a ← attempt; Pure.pure (wrap a) : Attempt β).FailsWith goal g := by
  refine Attempt.follows_bind.2 (Attempt.Follows.mono h fun result after hfailed => ?_)
  cases result with
  | ok a => rintro _ ⟨⟩
  | error cause =>
      rintro _ ⟨⟩
      exact hfailed cause rfl

/-- A transaction that fails is granted nothing. -/
theorem inTransaction_bind {attempt : Attempt β} {shape : β → List Move → Prop}
    {next : β → Attempt α} (h : attempt.Stages shape)
    (hnothing : ∀ staged, goal ⟨g.granted, staged⟩)
    (hnext : ∀ b moves, shape b moves →
      (next b).FailsWith goal ⟨g.granted ++ [moves], []⟩) :
    (inTransaction attempt >>= next).FailsWith goal g := by
  refine Attempt.follows_bind.2 (granted_inTransaction h hnext ?_)
  rintro cause ⟨_, staged⟩ rfl _ ⟨⟩
  exact hnothing staged

end Attempt.FailsWith

/-- Nothing was granted. -/
def Grants.Nothing (g : Grants) : Prop := g.granted = []

theorem stages_stageCreation (metadata : Value) (state : String) :
    (stageCreation label metadata state).Stages fun _ _ => True := by
  refine .after_quiet (quiet_lockRow label) fun row => ?_
  split
  · exact .throw _
  · exact .after_quiet (quiet_saveRow _) fun _ =>
      .bind (stages_appendMove _) fun _ _ _ => .pure trivial

theorem stages_stageUpdate (patch : Value) :
    (stageUpdate m label patch).Stages fun _ _ => True :=
  .after_quiet (quiet_lockLive label) fun _ =>
    .after_quiet (quiet_saveRow _) fun _ => .pure trivial

theorem stages_stageDeletion : (stageDeletion label).Stages fun _ _ => True := by
  refine .after_quiet (quiet_lockRow label) fun row => ?_
  split
  · exact .throw _
  · split
    · exact .pure trivial
    · exact .after_quiet (quiet_readOwnHistory label) fun _ =>
        .after_quiet (quiet_saveRow _) fun _ =>
          .bind (stages_appendMove _) fun _ _ _ => .pure trivial

/-- A demand stages the demanded move, from wherever the label was. -/
theorem stages_stageDemand (state : String) : (stageDemand label state).Stages
    fun _ moves => ∃ left, moves = [.demanded label left state] := by
  refine .after_quiet (quiet_lockLive label) fun live => .bind (stages_appendMove _) ?_
  rintro _ _ rfl
  exact .pure ⟨_, rfl⟩

/-- Creations that fail were granted nothing. -/
theorem granted_createLabel (metadata : Value) :
    (createLabel app label metadata).FailsWith Grants.Nothing {} := by
  refine .ofExcept_bind rfl fun m => ?_
  split
  · exact .throw rfl
  · exact .ofExcept_bind rfl fun first =>
      .inTransaction_bind (stages_stageCreation metadata first.name)
        (fun _ => rfl) fun _ _ _ => .ofWork_bind

/-- Updates that fail were granted nothing. -/
theorem granted_updateLabel (patch : Value) :
    (updateLabel app label patch).FailsWith Grants.Nothing {} := by
  refine .ofExcept_bind rfl fun m => ?_
  split
  · exact .throw rfl
  · refine .inTransaction_bind (stages_stageUpdate patch) (fun _ => rfl)
      fun result _ _ => ?_
    obtain ⟨merged, gate?⟩ := result
    cases gate? with
    | some gate => exact .ofWork_bind
    | none => exact .pure merged

/-- Deletions that fail were granted nothing. -/
theorem granted_deleteLabel : (deleteLabel app label).FailsWith Grants.Nothing {} := by
  refine .ofExcept_bind rfl fun _ => ?_
  rw [← bind_pure (inTransaction (stageDeletion label))]
  exact .inTransaction_bind stages_stageDeletion (fun _ => rfl) fun _ _ _ => .pure _

/-- Nothing was granted, or the demanded move of the label and then steps that
moved it on. -/
def Grants.Demanded (label : Label) (state : String) (g : Grants) : Prop :=
  g.granted = [] ∨
  ∃ left steps, g.granted = [.demanded label left state] :: steps ∧ Onward label steps

/-- Demands that fail were granted nothing, or their move and the steps after it. -/
theorem granted_forceLabel (state : String) :
    (forceLabel app label state).FailsWith (Grants.Demanded label state) {} := by
  refine .ofExcept_bind (.inl rfl) fun m => .ofExcept_bind (.inl rfl) fun _ =>
    .inTransaction_bind (stages_stageDemand state) (fun _ => .inl rfl) ?_
  rintro _ _ ⟨left, rfl⟩
  refine Attempt.follows_bind.2 ((granted_drain _).mono fun result after hsteps => ?_)
  cases result with
  | ok summary => rintro _ ⟨⟩
  | error cause =>
      rintro _ ⟨⟩
      obtain ⟨steps, hgranted, honward⟩ := hsteps cause rfl
      exact .inr ⟨left, steps, hgranted, honward⟩

/-- Creations, updates and deletions. -/
inductive Operation.AllOrNothing : Operation → Prop
  | create (label : Label) (metadata : Value) : AllOrNothing (.create label metadata)
  | update (label : Label) (patch : Value) : AllOrNothing (.update label patch)
  | delete (label : Label) : AllOrNothing (.delete label)

theorem Operation.AllOrNothing.granted {op : Operation} (h : op.AllOrNothing) :
    (op.perform app).FailsWith Grants.Nothing {} := by
  cases h with
  | create label metadata =>
      exact (granted_createLabel metadata).map OperationResult.document
  | update label patch => exact (granted_updateLabel patch).map OperationResult.document
  | delete label => exact granted_deleteLabel.map fun _ => OperationResult.nothing

/-- What operations that fail were granted, whatever they are answered. -/
structure Contained (app : App) : Prop where
  /-- A creation, an update or a deletion succeeds, or it was granted nothing. -/
  settled : ∀ (op : Operation) talk result, op.AllOrNothing →
    (op.perform app).run.Leads talk (.done result) →
    (∃ value, result = .ok value) ∨ (grantsOf talk).Nothing
  /-- A demand that fails was granted nothing, or the demanded move and the steps before
  the failure. -/
  demanded : ∀ label state talk error,
    ((Operation.force label state).perform app).run.Leads talk (.done (.error error)) →
    (grantsOf talk).Demanded label state

/-- **Failures are contained**, also those of the store. -/
theorem contained (app : App) : Contained app where
  settled op talk result hop hleads := by
    cases result with
    | ok value => exact .inl ⟨value, rfl⟩
    | error error => exact .inr (Work.Follows.granted hop.granted hleads error rfl)
  demanded label state talk error hleads :=
    have hforce : ((Operation.force label state).perform app).FailsWith
        (Grants.Demanded label state) {} :=
      (granted_forceLabel state).map fun _ => OperationResult.nothing
    Work.Follows.granted hforce hleads error rfl

end Turnstile
