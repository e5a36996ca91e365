import Turnstile.Proofs.Engine.Deliberation

/-!
# Draining can be resumed

Here the surroundings of a lone client are fixed: their clock stands still, and an
answer depends on the request alone.  A step that does not move a label then comes to
the same when it is made again, and leaves the store as it is (`stepping_again`).  So
nothing but what is committed carries over from one step of a drain to the next:

* `drain_resumes` : to drain a label with one limit and then with another is to drain it
  with their sum, and to drain a label that rests is to do nothing.
-/

set_option autoImplicit false

namespace Turnstile

open Time (DateTime)

variable {app : App} {m : Machine} {label : Label} {around : Surroundings Unit}
  {client : Client}

/-! ## Steps from the state a label is in -/

/-- What a step in fixed surroundings finds: the state that the label is in, and where
it goes. -/
def Surroundings.verdict (around : Surroundings Unit) (app : App) (m : Machine)
    (label : Label) (metadata : Value) (history : History) :
    Except EngineError (State × Option String) :=
  match history.state? with
  | none => .error (.deletedLabel label)
  | some name =>
    match m.stateNamed name with
    | .error error => .error error
    | .ok state =>
      ((state.consider app m label metadata history).run.runWith around.answer ()).1.map
      (Prod.mk state)

/-- What a step comes to by a verdict. -/
def outcomeOf (verdict : Except EngineError (State × Option String)) :
    Except EngineError Outcome :=
  verdict.map fun found => found.2.elim .stayed (.moved found.1.name)

/-- The store after a verdict on a label whose row was found. -/
def Store.after (s : Store) (row : Record) (label : Label) (created : DateTime) :
    Except EngineError (State × Option String) → Store
  | .error _ => s
  | .ok found => s.decided found.1 row label created (.ok found.2)

namespace Surroundings

variable {s : Store} {row : Record} {history : History}

variable (app m around) in
/-- The step of a label that is not found fails. -/
theorem stepCurrent_unfound {error : EngineError} (hidle : s.transaction? client = none)
    (hfound : s.inquire client label = .error error) :
    around.Makes client (stepCurrent app m label) s [] () (.error error) s := by
  obtain ⟨locked', x', hlock, -⟩ := lockLive_alone around () label hidle []
  rw [hfound] at hlock
  exact ⟨_, x', does_error_bind hlock _,
    Store.rollback_engaged (t := ⟨client, locked', [], []⟩) hidle rfl⟩

variable (app m around) in
/-- The step of a label that is found comes to what the verdict says. -/
theorem stepCurrent_found (hidle : s.transaction? client = none)
    (hfound : s.inquire client label = .ok (row, history)) :
    ∃ created, around.Makes client (stepCurrent app m label) s [] ()
      (outcomeOf (around.verdict app m label row.metadata history))
      (s.after row label created (around.verdict app m label row.metadata history)) := by
  obtain ⟨locked', ⟨⟩, hlock, -⟩ := lockLive_alone around () label hidle []
  rw [hfound] at hlock
  have hrest : (s.engaged ⟨client, locked', [], []⟩).rollback client = s :=
    Store.rollback_engaged hidle rfl
  cases hstate : history.state? with
  | none =>
      have hverdict : around.verdict app m label row.metadata history =
          .error (.deletedLabel label) := by
        simp only [verdict, hstate]
      rw [hverdict]
      refine ⟨around.clock (), _, (), (does_ok_bind hlock _).trans ?_, hrest⟩
      simp only [hstate]
      rfl
  | some name =>
      cases hnamed : m.stateNamed name with
      | error error =>
          have hverdict : around.verdict app m label row.metadata history =
              .error error := by
            simp only [verdict, hstate, hnamed]
          rw [hverdict]
          refine ⟨around.clock (), _, (), (does_ok_bind hlock _).trans ?_, hrest⟩
          simp only [hstate, hnamed]
          rfl
      | ok state =>
          have hverdict : around.verdict app m label row.metadata history =
              ((state.consider app m label row.metadata history).run.runWith
                around.answer ()).1.map
                (Prod.mk state) := by
            simp only [verdict, hstate, hnamed]
          have hhere : history.state? = some state.name := by
            rw [hstate, (Machine.mem_of_stateNamed hnamed).2]
          obtain ⟨⟨⟩, created, ended, x', hdoes, hsettled⟩ :=
            stepIn_here around () locked' app m hidle
              hfound hhere
          have hstep : around.does client (stepCurrent app m label).run
              (s.engaged ⟨client, [], [], []⟩) () =
                around.does client (stepIn app m state label).run
                  (s.engaged ⟨client, locked', [], []⟩) () := by
            refine (does_ok_bind hlock _).trans ?_
            simp only [hstate, hnamed]
            rfl
          rw [hverdict]
          refine ⟨created, ended, x', hstep.trans ?_, ?_⟩
          · rw [hdoes]
            cases ((state.consider app m label row.metadata history).run.runWith
              around.answer ()).1 <;> rfl
          · cases hdecision :
              ((state.consider app m label row.metadata history).run.runWith
                around.answer ()).1 with
            | error error =>
                rw [hdecision] at hsettled
                exact hsettled
            | ok decision =>
                rw [hdecision] at hsettled
                exact hsettled

end Surroundings

/-! ## A step that is made again -/

/-- The row after a step that did not move its label. -/
def State.rowAfter (state : State) (row : Record) : Record := (state.marks row).getD row

/-- A step leaves the row of its label as it was, or marked. -/
theorem State.rowAfter_cases (state : State) (row : Record) :
    state.rowAfter row = row ∨
    state.rowAfter row = { row with triggersProcessed := true } := by
  unfold State.rowAfter
  cases hmark : state.marks row with
  | none => exact .inl rfl
  | some marked => exact .inr (State.eq_of_marks hmark)

theorem State.metadata_rowAfter (state : State) (row : Record) :
    (state.rowAfter row).metadata = row.metadata := by
  rcases state.rowAfter_cases row with h | h <;> rw [h]

theorem State.deleted_rowAfter (state : State) (row : Record) :
    (state.rowAfter row).deleted = row.deleted := by
  rcases state.rowAfter_cases row with h | h <;> rw [h]

/-- A row is not marked twice. -/
theorem State.marks_rowAfter (state : State) (row : Record) :
    state.marks (state.rowAfter row) = none := by
  cases state with
  | action action => rfl
  | gate gate =>
      obtain ⟨label, metadata, deleted, processed⟩ := row
      cases processed <;> rfl

namespace Store

variable {s : Store} {state : State} {row : Record} {history : History}

theorem written_nothing (s : Store) : s.written [] [] = s := by simp [written, putRows]

variable (state) in
/-- A label whose updates were marked is found as it was before, but for the mark. -/
theorem inquire_marked (h : s.inquire client label = .ok (row, history)) :
    (s.written (state.marks row).toList []).inquire client label =
      .ok (state.rowAfter row, history) := by
  obtain ⟨hrow, hlive, rfl⟩ := inquire_eq_ok h
  have hfree : s.isTaken client label = false := by
    refine Bool.eq_false_iff.2 fun htaken => ?_
    simp [inquire, htaken] at h
  have hrow' : (s.written (state.marks row).toList []).row? label =
      some (state.rowAfter row) := by
    rw [row?_written_mark state (label_of_findRow hrow), if_pos rfl, hrow]
    unfold State.rowAfter
    cases state.marks row <;> rfl
  have hpast : (s.written (state.marks row).toList []).history label =
      s.history label := by
    simp [history_written, entriesOf]
  have hfree' : (s.written (state.marks row).toList []).isTaken client label =
      false := hfree
  have hlive' : (state.rowAfter row).deleted = false :=
    (state.deleted_rowAfter row).trans hlive
  simp [inquire, hfree', hrow', hlive', hpast]

end Store

/-- A lone client makes a step from the state that a label is in. -/
def Surroundings.steps (around : Surroundings Unit) (client : Client) (app : App)
    (m : Machine) (label : Label) (s : Store) :
    Except EngineError Outcome × (Store × Unit) :=
  around.does client (inTransaction (stepCurrent app m label)).run s ()

section Again

variable {s after : Store} {row : Record} {history : History}
  {result : Except EngineError Outcome}

/-- A step that does not find its label changes nothing. -/
theorem steps_unfound {error : EngineError}
    (hfound : (s.rollback client).inquire client label = .error error) :
    around.steps client app m label s = (.error error, s.rollback client, ()) := by
  obtain ⟨ended, x', hdoes, hsettled⟩ := Surroundings.stepCurrent_unfound app m around
    (Store.transaction?_rollback_self s client) hfound
  obtain ⟨x'', hstep⟩ := Surroundings.does_inTransaction hdoes
  rw [hsettled] at hstep
  exact hstep

variable (app m around) in
/-- A step that finds its label does what the verdict on it says. -/
theorem steps_found
    (hfound : (s.rollback client).inquire client label = .ok (row, history)) :
    ∃ created, around.steps client app m label s =
      (outcomeOf (around.verdict app m label row.metadata history),
        (s.rollback client).after row label created
          (around.verdict app m label row.metadata history), ()) := by
  obtain ⟨created, ended, x', hdoes, hsettled⟩ :=
    Surroundings.stepCurrent_found app m around
      (Store.transaction?_rollback_self s client) hfound
  obtain ⟨x'', hstep⟩ := Surroundings.does_inTransaction hdoes
  rw [hsettled] at hstep
  exact ⟨created, hstep⟩

/-- A step came to something else than a move. -/
def Rests (result : Except EngineError Outcome) : Prop :=
  ∀ source target, result ≠ .ok (.moved source target)

/-- A step moves the label, or the drain rests. -/
theorem moved_or_rests (result : Except EngineError Outcome) :
    (∃ source target, result = .ok (.moved source target)) ∨ Rests result := by
  by_cases h : ∃ source target, result = .ok (.moved source target)
  · exact .inl h
  · exact .inr fun source target hmoved => h ⟨source, target, hmoved⟩

/-- **A step that does not move its label**, made again, comes to the same and leaves
the store as it is. -/
theorem steps_again (h : around.steps client app m label s = (result, after, ()))
    (hrest : Rests result) :
    around.steps client app m label after = (result, after, ()) := by
  cases hfound : (s.rollback client).inquire client label with
  | error error =>
      rw [steps_unfound hfound] at h
      cases h
      rw [steps_unfound (by rw [Store.rollback_rollback]; exact hfound),
        Store.rollback_rollback]
  | ok found =>
      obtain ⟨row, history⟩ := found
      obtain ⟨created, hsteps⟩ := steps_found app m around hfound
      rw [hsteps] at h
      generalize hverdict : around.verdict app m label row.metadata history = verdict at h
      cases verdict with
      | error error =>
          cases h
          obtain ⟨created', hagain⟩ := steps_found app m around
            (s := s.rollback client) (by rw [Store.rollback_rollback]; exact hfound)
          rw [hverdict, Store.rollback_rollback] at hagain
          exact hagain
      | ok decided =>
          obtain ⟨state, decision⟩ := decided
          cases decision with
          | some target =>
              cases h
              exact absurd rfl (hrest _ _)
          | none =>
              cases h
              have hmarked := Store.inquire_marked state hfound
              have hidle :
                  ((s.rollback client).written (state.marks row).toList []).rollback
                    client =
                    (s.rollback client).written (state.marks row).toList [] :=
                Store.rollback_of_idle (Store.transaction?_rollback_self s client)
              obtain ⟨created', hagain⟩ := steps_found app m around
                (s := (s.rollback client).written (state.marks row).toList [])
                (by rw [hidle]; exact hmarked)
              rw [hidle, state.metadata_rowAfter, hverdict] at hagain
              refine hagain.trans ?_
              have hnothing :
                  Store.after ((s.rollback client).written (state.marks row).toList [])
                    (state.rowAfter row) label created' (.ok (state, none)) =
                      (s.rollback client).written (state.marks row).toList [] := by
                simp only [Store.after, Store.decided, state.marks_rowAfter]
                exact Store.written_nothing _
              rw [hnothing]
              rfl

end Again

/-! ## Draining -/

/-- An application with another limit of the steps in one go. -/
def App.limited (app : App) (limit : Nat) : App :=
  { app with settings := { app.settings with maxTransitions := limit } }

section Drains

variable {s after : Store}

/-- The limit plays no part in a step. -/
theorem drainFrom_limited (b limit remaining : Nat) :
    drainFrom (app.limited b) m label limit remaining =
      drainFrom app m label limit remaining := by
  induction remaining with
  | zero => rfl
  | succ remaining ih =>
      unfold drainFrom
      rw [ih]
      rfl

/-- What a drain comes to when a step comes to something else than a move. -/
def restedAs (steps : Nat) : Except EngineError Outcome → Except EngineError DrainSummary
  | .ok _ => .ok ⟨steps, false⟩
  | .error (.deletedLabel _) => .ok ⟨steps, false⟩
  | .error error => .error error

/-- A drain without steps left is cut short. -/
theorem does_drainFrom_zero (limit : Nat) :
    around.does client (drainFrom app m label limit 0).run s () =
      (.ok ⟨limit, true⟩, s, ()) := rfl

/-- After a move the drain goes on with one step less. -/
theorem does_drainFrom_moved {source target : String} (limit remaining : Nat)
    (h : around.steps client app m label s = (.ok (.moved source target), after, ())) :
    around.does client (drainFrom app m label limit (remaining + 1)).run s () =
      around.does client (drainFrom app m label limit remaining).run after () :=
  Surroundings.does_bind h _

/-- The first step that does not move ends the drain. -/
theorem does_drainFrom_rest {result : Except EngineError Outcome} (limit remaining : Nat)
    (h : around.steps client app m label s = (result, after, ()))
    (hrest : Rests result) :
    around.does client (drainFrom app m label limit (remaining + 1)).run s () =
      (restedAs (limit - (remaining + 1)) result, after, ()) := by
  refine (Surroundings.does_bind h _).trans ?_
  cases result with
  | ok outcome =>
      cases outcome with
      | moved source target => exact absurd rfl (hrest source target)
      | stayed => rfl
  | error error => cases error <;> rfl

/-- The steps that were made before are only counted. -/
theorem does_drainFrom_counted (made limit remaining : Nat)
    (hlimit : remaining ≤ limit) (s : Store) :
    around.does client (drainFrom app m label (made + limit) remaining).run s () =
      ((around.does client (drainFrom app m label limit remaining).run s ()).1.map
          fun summary => ⟨made + summary.steps, summary.capped⟩,
        (around.does client (drainFrom app m label limit remaining).run s ()).2.1,
          ()) := by
  induction remaining generalizing s with
  | zero => rfl
  | succ remaining ih =>
      rcases hsteps : around.steps client app m label s with ⟨result, after, ⟨⟩⟩
      rcases moved_or_rests result with ⟨source, target, rfl⟩ | hrest
      · rw [does_drainFrom_moved _ _ hsteps, does_drainFrom_moved _ _ hsteps]
        exact ih (by omega) after
      · rw [does_drainFrom_rest _ _ hsteps hrest, does_drainFrom_rest _ _ hsteps hrest]
        have hcount :
            made + limit - (remaining + 1) = made + (limit - (remaining + 1)) := by omega
        rw [hcount]
        cases result with
        | ok outcome => rfl
        | error error => cases error <;> rfl

/-- To drain a label that rests is to do nothing. -/
theorem does_drainFrom_again {result : Except EngineError Outcome}
    (h : around.steps client app m label s = (result, after, ()))
    (hrest : Rests result) (limit : Nat) :
    around.does client (drainFrom app m label limit limit).run after () =
      (if limit = 0 then .ok ⟨0, true⟩ else restedAs 0 result, after, ()) := by
  cases limit with
  | zero => rfl
  | succ limit =>
      rw [does_drainFrom_rest _ _ (steps_again h hrest) hrest, Nat.sub_self]
      rfl

/-- The sum of two drains, one after the other. -/
def DrainSummary.and (first second : DrainSummary) : DrainSummary :=
  ⟨first.steps + second.steps, first.capped && second.capped⟩

variable (app m label around client) in
/-- A drain that goes on after another. -/
theorem does_drainFrom_resumed (made a b : Nat) (s : Store) :
    around.does client (drainFrom app m label (made + (a + b)) (a + b)).run s () =
      ((do
        let first ← (around.does client (drainFrom app m label (made + a) a).run s ()).1
        let second ← (around.does client (drainFrom app m label b b).run
          (around.does client (drainFrom app m label (made + a) a).run s ()).2.1 ()).1
        pure (first.and second)),
        (around.does client (drainFrom app m label b b).run
          (around.does client (drainFrom app m label (made + a) a).run s ()).2.1 ()).2.1,
            ()) := by
  induction a generalizing made s with
  | zero =>
      rw [Nat.zero_add, Nat.add_zero, does_drainFrom_zero,
        does_drainFrom_counted _ _ _ (Nat.le_refl b)]
      rcases around.does client (drainFrom app m label b b).run s ()
        with ⟨result, after, ⟨⟩⟩
      cases result with
      | ok summary => rfl
      | error error => rfl
  | succ a ih =>
      have hsum : a + 1 + b = a + b + 1 := by omega
      rw [hsum]
      rcases hsteps : around.steps client app m label s with ⟨result, after, ⟨⟩⟩
      rcases moved_or_rests result with ⟨source, target, rfl⟩ | hrest
      · rw [does_drainFrom_moved _ _ hsteps, does_drainFrom_moved _ _ hsteps]
        have hmade : made + (a + b + 1) = made + 1 + (a + b) := by omega
        have hmade' : made + (a + 1) = made + 1 + a := by omega
        rw [hmade, hmade']
        exact ih (made + 1) after
      · rw [does_drainFrom_rest _ _ hsteps hrest, does_drainFrom_rest _ _ hsteps hrest,
          does_drainFrom_again hsteps hrest]
        have hsteps₀ :
            made + (a + b + 1) - (a + b + 1) = made + (a + 1) - (a + 1) := by omega
        rw [hsteps₀]
        cases result with
        | ok outcome => cases b <;> rfl
        | error error => cases error <;> cases b <;> rfl

/-- A drain that the limit did not end has come to rest. -/
theorem rests_of_uncapped {limit remaining steps : Nat}
    (h : around.does client (drainFrom app m label limit remaining).run s () =
      (.ok ⟨steps, false⟩, after, ())) :
    ∃ result, around.steps client app m label after = (result, after, ()) ∧ Rests result ∧
      restedAs 0 result = .ok ⟨0, false⟩ := by
  induction remaining generalizing s with
  | zero =>
      rw [does_drainFrom_zero] at h
      cases h
  | succ remaining ih =>
      rcases hsteps : around.steps client app m label s with ⟨result, next, ⟨⟩⟩
      rcases moved_or_rests result with ⟨source, target, rfl⟩ | hrest
      · rw [does_drainFrom_moved _ _ hsteps] at h
        exact ih h
      · rw [does_drainFrom_rest _ _ hsteps hrest] at h
        have hresult : restedAs (limit - (remaining + 1)) result = .ok ⟨steps, false⟩ :=
          congrArg Prod.fst h
        have hafter : next = after := congrArg (fun left => left.2.1) h
        subst hafter
        refine ⟨result, steps_again hsteps hrest, hrest, ?_⟩
        cases result with
        | ok outcome => rfl
        | error error => cases error <;> first | rfl | cases hresult

end Drains

/-- **Draining can be resumed.**  In fixed surroundings, to drain a label with one limit
and then with another comes to the same store as to drain it with their sum, and to the
same result: the numbers of steps add up, and the limit has ended the whole drain if it
has ended both.  After a drain that was not ended by the limit a further one makes no
step, and leaves the store as it is. -/
theorem drain_resumes (around : Surroundings Unit) (client : Client) (app : App)
    (label : Label) (s : Store) (a b : Nat) :
    let first := around.does client (drain (app.limited a) label).run s ()
    let second := around.does client (drain (app.limited b) label).run first.2.1 ()
    let whole := around.does client (drain (app.limited (a + b)) label).run s ()
    whole.2.1 = second.2.1 ∧
      whole.1 = (do
        let x ← first.1
        let y ← second.1
        pure (x.and y)) ∧
      ∀ steps, first.1 = .ok ⟨steps, false⟩ →
        second.1 = .ok ⟨0, b == 0⟩ ∧ second.2.1 = first.2.1 := by
  intro first second whole
  cases hmachine : app.machine label.machine with
  | error error =>
      have hdrain : ∀ (limit : Nat) (s : Store),
          around.does client (drain (app.limited limit) label).run s () =
            (.error error, s, ()) := by
        intro limit s
        have hunknown : (app.limited limit).machine label.machine =
            .error error := hmachine
        unfold drain
        rw [hunknown]
        rfl
      simp only [first, second, whole, hdrain]
      refine ⟨trivial, rfl, ?_⟩
      intro steps h
      cases h
  | ok m =>
      have hdrain : ∀ (limit : Nat) (s : Store),
          around.does client (drain (app.limited limit) label).run s () =
            around.does client (drainFrom app m label limit limit).run s () := by
        intro limit s
        have hknown : (app.limited limit).machine label.machine = .ok m := hmachine
        rw [← drainFrom_limited limit]
        unfold drain
        rw [hknown]
        rfl
      have hresumed := does_drainFrom_resumed app m label around client 0 a b s
      simp only [Nat.zero_add] at hresumed
      simp only [first, second, whole, hdrain]
      rw [hresumed]
      refine ⟨rfl, rfl, ?_⟩
      intro steps hfirst
      rcases hran : around.does client (drainFrom app m label a a).run s ()
        with ⟨result, after, ⟨⟩⟩
      rw [hran] at hfirst
      cases hfirst
      obtain ⟨result, hsteps, hrest, hzero⟩ := rests_of_uncapped hran
      rw [does_drainFrom_again hsteps hrest, hzero]
      cases b <;> exact ⟨rfl, rfl⟩

end Turnstile
