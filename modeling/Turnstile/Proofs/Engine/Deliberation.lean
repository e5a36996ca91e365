import Turnstile.Proofs.Engine.Alone

/-!
# What a step does to the store

A step looks the label up, deliberates on what it found, and writes what it decided.
Only the first part and the last ask the store; the deliberation (`State.consider`) asks
the surroundings, and it sees no more of the row than the metadata.

* `stepIn_eq` : every step has these three parts.
* `stepIn_here` : what a lone client's step leaves in its transaction.
* `StepEffect` : all that can be found in the store after a step in a transaction of its
  own, and `stepOnce_effect` : that is what is found.
-/

set_option autoImplicit false

namespace Turnstile

open Time (DateTime)

/-! ## The three parts of a step -/

/-- Where a gate that a label is in lets it go. -/
def Gate.consider (m : Machine) (gate : Gate) (label : Label) (metadata : Value)
    (history : History) :
    Attempt (Option String) :=
  if gate.route.isTerminal then pure none
  else do
    let now ← Attempt.ofWork (Work.request .now)
    let gathered ← Attempt.ofWork
      (gatherContext m label metadata history.current? gate.reads)
    let context ← Attempt.ofExcept EngineError.feed gathered
    let passed ← Attempt.ofExcept (EngineError.evaluation gate.name)
      (gate.exit.run context.lookup (.aware now))
    if passed then do
      let target ← Attempt.ofExcept EngineError.route (gate.route.next context.lookup)
      pure (some target)
    else pure none

/-- Where an action that a label is in takes it. -/
def Action.consider (app : App) (m : Machine) (action : Action) (label : Label)
    (metadata : Value) (history : History) : Attempt (Option String) :=
  match history.current? with
  | none => pure none
  | some entry =>
    if action.route.isTerminal then pure none
    else if !app.delivers m.name then throw (.noReceiver m.name)
    else do
      let result ← Attempt.ofWork (deliver m action label metadata entry)
      match result with
      | .success => do
        let target ← Attempt.ofExcept EngineError.route
          (action.route.next (Context.mk label metadata [] (some entry)).lookup)
        pure (some target)
      | .retry => pure none
      | .fail => pure none

/-- The deliberation of a step. -/
def State.consider (app : App) (m : Machine) (state : State) (label : Label)
    (metadata : Value) (history : History) : Attempt (Option String) :=
  match state with
  | .gate g => g.consider m label metadata history
  | .action a => a.consider app m label metadata history

/-- The row that a step puts: a gate marks the updates of the label as taken to it. -/
def State.marks : State → Record → Option Record
  | .gate _, row => row.marked
  | .action _, _ => none

/-- Stage a row, if there is one. -/
def saveIfAny : Option Record → Attempt Unit
  | none => pure ()
  | some row => saveRow row

/-- Stage the move that was decided on. -/
def conclude (label : Label) (source : String) : Option String → Attempt Outcome
  | none => pure .stayed
  | some target => do
    let _ ← appendMove (.transition label source target)
    pure (.moved source target)

/-- Marking a row saves it, unless it is marked already. -/
theorem markProcessed_eq (row : Record) : markProcessed row = saveIfAny row.marked := by
  unfold markProcessed Record.marked
  split <;> rfl

/-- The step of a gate: lock, mark, consider, conclude. -/
theorem stepGate_eq (m : Machine) (gate : Gate) (label : Label) :
    stepGate m gate label = (do
      let (row, history) ← lockLive label
      if history.state? = some gate.name then do
        saveIfAny row.marked
        let decision ← gate.consider m label row.metadata history
        conclude label gate.name decision
      else pure .stayed) := by
  unfold stepGate
  apply bind_congr
  rintro ⟨row, history⟩
  by_cases hhere : history.state? = some gate.name
  · simp only [hhere, ne_eq, not_true_eq_false, if_false, if_true, markProcessed_eq]
    apply bind_congr
    intro _
    unfold Gate.consider
    split
    · rfl
    · simp only [bind_assoc]
      apply bind_congr; intro now
      apply bind_congr; intro gathered
      apply bind_congr; intro context
      apply bind_congr; intro passed
      cases passed with
      | false => rfl
      | true => simp [leave, conclude]
  · simp only [hhere, ne_eq, not_false_eq_true, if_true, if_false]

/-- The step of an action: lock, consider, conclude.  Actions mark no row. -/
theorem stepAction_eq (app : App) (m : Machine) (action : Action) (label : Label) :
    stepAction app m action label = (do
      let (row, history) ← lockLive label
      if history.state? = some action.name then do
        saveIfAny none
        let decision ← action.consider app m label row.metadata history
        conclude label action.name decision
      else pure .stayed) := by
  unfold stepAction
  apply bind_congr
  rintro ⟨row, history⟩
  dsimp only
  unfold Action.consider History.entryInto? History.state?
  cases history.current? with
  | none => rfl
  | some entry =>
      by_cases hhere : entry.entered = some action.name
      · simp only [Option.filter, hhere, beq_self_eq_true, if_true, Option.bind_some,
          saveIfAny, pure_bind]
        split
        · rfl
        · split
          · rfl
          · rw [bind_assoc]
            apply bind_congr
            intro result
            cases result with
            | success => simp [leave, conclude]
            | retry => rfl
            | fail => rfl
      · simp only [Option.filter, beq_eq_false_iff_ne.2 hhere, Bool.false_eq_true,
          if_false, Option.bind_some, hhere]

/-- **The parts of a step.** -/
theorem stepIn_eq (app : App) (m : Machine) (state : State) (label : Label) :
    stepIn app m state label = (do
      let (row, history) ← lockLive label
      if history.state? = some state.name then do
        saveIfAny (state.marks row)
        let decision ← state.consider app m label row.metadata history
        conclude label state.name decision
      else pure .stayed) := by
  cases state with
  | gate gate => exact stepGate_eq m gate label
  | action action => exact stepAction_eq app m action label

/-! ## The deliberation asks nothing of the store -/

/-- The requests of a deliberation: it looks at the clock, fetches feeds, delivers, and
tells who watches. -/
def Request.Outward : Request → Prop
  | .now => True
  | .fetch _ => True
  | .deliver _ => True
  | .notify _ => True
  | _ => False

/-- Requests to the world outside do not go to the store. -/
theorem Request.Outward.offline {r : Request} (h : r.Outward) : r.Offline := by
  rintro request rfl
  exact h

section Outward

variable {m : Machine} {label : Label} {metadata : Value} {history : History}

theorem outward_tell (notice : Notice) : (tell notice).Asks Request.Outward :=
  Work.asks_request trivial

/-- Feeds are fetched one after the other, and the store is not asked. -/
theorem outward_gatherFeeds (context : Context) (names : List String) :
    (gatherFeeds m context names).Asks Request.Outward := by
  induction names generalizing context with
  | nil => exact .done _
  | cons name rest ih =>
      unfold gatherFeeds
      split
      · exact .done _
      · next feed _ =>
          apply (outward_tell _).bind
          intro _
          apply (Work.asks_request trivial).bind
          intro answer
          cases answer with
          | error error => exact (outward_tell _).bind fun _ => .done _
          | ok document => exact (outward_tell _).bind fun _ => ih _

/-- What a gate considers it has from outside. -/
theorem outward_gate (gate : Gate) :
    (gate.consider m label metadata history).Asks Request.Outward := by
  unfold Gate.consider
  split
  · exact Attempt.asks_pure _
  · apply (Attempt.asks_ofWork (Work.asks_request trivial)).bind
    intro now
    apply (Attempt.asks_ofWork (outward_gatherFeeds _ _)).bind
    intro gathered
    apply (Attempt.asks_ofExcept _ _).bind
    intro context
    apply (Attempt.asks_ofExcept _ _).bind
    intro passed
    cases passed with
    | false => exact Attempt.asks_pure _
    | true => exact (Attempt.asks_ofExcept _ _).bind fun _ => Attempt.asks_pure _

/-- Deliveries are told and asked outside. -/
theorem outward_deliver (action : Action) (entry : Entry) :
    (deliver m action label metadata entry).Asks Request.Outward := by
  apply (outward_tell _).bind
  intro _
  apply (Work.asks_request trivial).bind
  intro result
  exact (outward_tell _).bind fun _ => Work.asks_pure _

/-- What an action considers it has from outside. -/
theorem outward_action (app : App) (action : Action) :
    (action.consider app m label metadata history).Asks Request.Outward := by
  unfold Action.consider
  split
  · exact Attempt.asks_pure _
  · split
    · exact Attempt.asks_pure _
    · split
      · exact Attempt.asks_throw _
      · apply (Attempt.asks_ofWork (outward_deliver _ _)).bind
        intro result
        cases result with
        | success => exact (Attempt.asks_ofExcept _ _).bind fun _ => Attempt.asks_pure _
        | retry => exact Attempt.asks_pure _
        | fail => exact Attempt.asks_pure _

variable (m label metadata history) in
/-- **The deliberation** asks nothing of the store. -/
theorem outward_consider (app : App) (state : State) :
    (state.consider app m label metadata history).Asks Request.Outward := by
  cases state with
  | gate gate => exact outward_gate gate
  | action action => exact outward_action app action

end Outward

/-! ## What a step asks -/

/-- The requests of a step in a transaction of its own. -/
inductive Request.OfStep : Request → Prop
  | store (request : StoreRequest) : OfStep (.store request)
  | outward {r : Request} (h : r.Outward) : OfStep r
  | rollbackFailed (refusal : StoreError) : OfStep (.log (rollbackWarning refusal))

section OfStep

variable {app : App} {m : Machine} {label : Label} {α : Type}

/-- A lock asks the store, as steps do. -/
theorem asks_lockLive : (lockLive label).Asks Request.OfStep := by
  apply (Attempt.asks_ofStore (.store _)).bind
  intro found
  cases found with
  | none => exact Attempt.asks_throw _
  | some row =>
      dsimp only
      split
      · exact Attempt.asks_throw _
      · apply ((Attempt.asks_ofStore (.store _)).bind fun _ => Attempt.asks_pure _).bind
        exact fun _ => Attempt.asks_pure _

theorem asks_saveIfAny (mark : Option Record) : (saveIfAny mark).Asks Request.OfStep := by
  cases mark with
  | none => exact Attempt.asks_pure _
  | some row => exact Attempt.asks_ofStore (.store _)

theorem asks_conclude (source : String) (decision : Option String) :
    (conclude label source decision).Asks Request.OfStep := by
  cases decision with
  | none => exact Attempt.asks_pure _
  | some target =>
      exact (Attempt.asks_ofStore (.store _)).bind fun _ => Attempt.asks_pure _

/-- A step asks what steps ask. -/
theorem asks_stepIn (state : State) : (stepIn app m state label).Asks Request.OfStep := by
  rw [stepIn_eq]
  apply asks_lockLive.bind
  rintro ⟨row, history⟩
  dsimp only
  split
  · have hponder :
        (state.consider app m label row.metadata history).Asks Request.OfStep :=
      (outward_consider _ _ _ _ app state).mono fun _ => Request.OfStep.outward
    apply (asks_saveIfAny _).bind
    intro _
    exact hponder.bind (asks_conclude state.name)
  · exact Attempt.asks_pure _

theorem asks_stepCurrent : (stepCurrent app m label).Asks Request.OfStep := by
  apply asks_lockLive.bind
  rintro ⟨row, history⟩
  dsimp only
  split
  · exact Attempt.asks_throw _
  · exact (Attempt.asks_ofExcept _ _).bind asks_stepIn

/-- A transaction asks what is asked within it, and what it takes to begin and to
end it. -/
theorem asks_inTransaction {attempt : Attempt α} (h : attempt.Asks Request.OfStep) :
    (inTransaction attempt).Asks Request.OfStep := by
  apply (Work.asks_request (.store .begin)).bind
  intro begun
  cases begun with
  | error refusal => exact .done _
  | ok _ =>
      apply Work.Asks.bind h
      intro result
      cases result with
      | ok a =>
          apply (Work.asks_request (.store .commit)).bind
          intro ended
          cases ended <;> exact .done _
      | error error =>
          apply (Work.asks_request (.store .rollback)).bind
          intro ended
          cases ended with
          | ok _ => exact .done _
          | error refusal =>
              exact (Work.asks_request (.rollbackFailed refusal)).bind fun _ => .done _

end OfStep

/-! ## What a step leaves in its transaction -/

/-- In a transaction of a lone client that has staged nothing, an attempt comes to a
result, and settling the transaction leaves a store. -/
def Surroundings.Makes {σ α : Type} (around : Surroundings σ) (client : Client)
    (attempt : Attempt α) (s : Store) (locked : List Label) (x : σ)
    (result : Except EngineError α) (after : Store) : Prop :=
  ∃ ended x', around.does client attempt.run (s.engaged ⟨client, locked, [], []⟩) x =
    (result, ended, x') ∧
    ended.settled client result = after

/-- The row that a step puts is the one it found, but for the mark. -/
theorem State.eq_of_marks {state : State} {row marked : Record}
    (h : state.marks row = some marked) :
    marked = { row with triggersProcessed := true } := by
  cases state with
  | action action => cases h
  | gate gate =>
      simp only [State.marks, Record.marked] at h
      split at h
      · cases h
      · exact (Option.some.inj h).symm

/-- Marking leaves a row with its label. -/
theorem State.label_of_marks {state : State} {row marked : Record}
    (h : state.marks row = some marked) :
    marked.label = row.label := by
  rw [State.eq_of_marks h]

/-- The store after a step that found the row of a label in the state: what was decided
is written. -/
def Store.decided (s : Store) (state : State) (row : Record) (label : Label)
    (created : DateTime) :
    Except EngineError (Option String) → Store
  | .error _ => s
  | .ok decision => s.written (state.marks row).toList
      (decision.toList.map fun target =>
        ⟨.transition label state.name target, s.nextId, created⟩)

namespace Surroundings

variable {σ : Type} {around : Surroundings σ} {client : Client} {s : Store} {x : σ}
  {label : Label} {locked : List Label}

variable (around x) in
/-- A transaction with nothing written has, once a mark is saved, the mark. -/
theorem does_saveIfAny (hidle : s.transaction? client = none) (mark : Option Record)
    (hheld : ∀ row, mark = some row → row.label ∈ locked) :
    ∃ x', around.does client (saveIfAny mark).run (s.engaged ⟨client, locked, [], []⟩) x =
      (.ok (), s.engaged ⟨client, locked, mark.toList, []⟩, x') := by
  cases mark with
  | none => exact ⟨x, rfl⟩
  | some row => exact does_saveRow hidle rfl (hheld row rfl)

variable (around x) in
/-- What was decided is staged, and the commit writes it with the mark. -/
theorem conclude_alone (hidle : s.transaction? client = none) (hheld : label ∈ locked)
    (source : String) (mark : List Record) (decision : Option String) :
    ∃ ended x' created, around.does client (conclude label source decision).run
        (s.engaged ⟨client, locked, mark, []⟩) x =
          (.ok (decision.elim .stayed (.moved source)), ended, x') ∧
      ended.commit client = s.written mark
        (decision.toList.map fun target =>
          ⟨.transition label source target, s.nextId, created⟩) := by
  cases decision with
  | none =>
      refine ⟨_, x, around.clock x, rfl, ?_⟩
      rw [Store.commit_engaged hidle rfl]
      simp [Store.written]
  | some target =>
      obtain ⟨x', happend⟩ := does_appendMove around x (t := ⟨client, locked, mark, []⟩)
        (.transition label source target) hidle rfl hheld
      have hidle' : Store.transaction? { s with nextId := s.nextId + 1 } client =
          none := hidle
      refine ⟨_, x', around.clock x, (does_ok_bind happend _).trans rfl, ?_⟩
      rw [Store.commit_engaged hidle' rfl]
      simp [Store.written, Store.adding]

variable {app : App} {m : Machine} {state : State} {row : Record} {history : History}

/-- A step that does not find a live label fails. -/
theorem stepIn_unfound {error : EngineError} (hidle : s.transaction? client = none)
    (hfound : s.inquire client label = .error error) :
    around.Makes client (stepIn app m state label) s locked x (.error error) s := by
  obtain ⟨locked', x', hlock, -⟩ := lockLive_alone around x label hidle locked
  rw [hfound] at hlock
  refine ⟨_, x', ?_, Store.rollback_engaged (t := ⟨client, locked', [], []⟩) hidle rfl⟩
  rw [stepIn_eq]
  exact does_error_bind hlock _

/-- A step on a state that the label is not in does nothing. -/
theorem stepIn_elsewhere (hidle : s.transaction? client = none)
    (hfound : s.inquire client label = .ok (row, history))
    (helsewhere : history.state? ≠ some state.name) :
    around.Makes client (stepIn app m state label) s locked x (.ok .stayed) s := by
  obtain ⟨locked', x', hlock, -⟩ := lockLive_alone around x label hidle locked
  rw [hfound] at hlock
  refine ⟨_, x', ?_,
    (Store.commit_engaged (t := ⟨client, locked', [], []⟩) hidle rfl).trans
    (by simp [putRows])⟩
  rw [stepIn_eq, does_ok_bind hlock]
  simp only [helsewhere, if_false]
  rfl

variable (around x locked app m) in
/-- **A step on the state that a label is in** comes to what its deliberation comes to. -/
theorem stepIn_here (hidle : s.transaction? client = none)
    (hfound : s.inquire client label = .ok (row, history))
    (hhere : history.state? = some state.name) :
    ∃ y created, around.Makes client (stepIn app m state label) s locked x
      (((state.consider app m label row.metadata history).run.runWith
        around.answer y).1.map
        fun decision => decision.elim .stayed (.moved state.name))
      (s.decided state row label created
        ((state.consider app m label row.metadata history).run.runWith
          around.answer y).1) := by
  obtain ⟨hrow, -, -⟩ := Store.inquire_eq_ok hfound
  obtain ⟨locked', x₁, hlock, hheld⟩ := lockLive_alone around x label hidle locked
  have hlabel : row.label = label := Store.label_of_findRow hrow
  have hmark : ∀ marked, state.marks row = some marked → marked.label ∈ locked' := by
    intro marked h
    rw [State.label_of_marks h, hlabel]
    exact hheld _ hfound
  obtain ⟨x₂, hsave⟩ := does_saveIfAny around x₁ hidle (state.marks row) hmark
  have hponder := does_offline around client
    (s.engaged ⟨client, locked', (state.marks row).toList, []⟩) x₂
    ((outward_consider m label row.metadata history app state).mono fun _ =>
      Request.Outward.offline)
  have hparts : around.does client (stepIn app m state label).run
      (s.engaged ⟨client, locked, [], []⟩) x =
        around.does client
          (state.consider app m label row.metadata history >>=
            conclude label state.name).run
          (s.engaged ⟨client, locked', (state.marks row).toList, []⟩) x₂ := by
    rw [hfound] at hlock
    rw [stepIn_eq, does_ok_bind hlock]
    simp only [hhere, if_true]
    exact does_ok_bind hsave _
  generalize hran : (state.consider app m label row.metadata history).run.runWith
    around.answer x₂ = ran at hponder
  obtain ⟨result, x₃⟩ := ran
  cases result with
  | error error =>
      refine ⟨x₂, around.clock x, ?_⟩
      rw [hran]
      refine ⟨_, x₃, hparts.trans (does_error_bind hponder _), ?_⟩
      exact Store.rollback_engaged
        (t := ⟨client, locked', (state.marks row).toList, []⟩) hidle rfl
  | ok decision =>
      obtain ⟨ended, x₄, created, hconclude, hcommit⟩ := conclude_alone around x₃ hidle
        (hheld _ hfound) state.name (state.marks row).toList decision
      refine ⟨x₂, created, ?_⟩
      rw [hran]
      exact ⟨ended, x₄, hparts.trans ((does_ok_bind hponder _).trans hconclude), hcommit⟩

end Surroundings

/-! ## The effect of a step -/

/-- What a step on a state comes to for a label, and all that it changes in the store. -/
inductive StepEffect (state : State) (label : Label) (s : Store) :
    Except EngineError Outcome → Store → Prop
  /-- Nothing is left of a step that fails. -/
  | failed (error : EngineError) : StepEffect state label s (.error error) s
  /-- The label is not in the state, and nothing is done. -/
  | elsewhere {row : Record} (hrow : s.row? label = some row)
      (hlive : row.deleted = false)
      (helsewhere : (History.ofEntries (s.history label)).state? ≠ some state.name) :
      StepEffect state label s (.ok .stayed) s
  /-- The label stays in the state.  A gate has marked the updates of its row. -/
  | stayed {row : Record} (hrow : s.row? label = some row) (hlive : row.deleted = false)
      (hhere : (History.ofEntries (s.history label)).state? = some state.name) :
      StepEffect state label s (.ok .stayed) (s.written (state.marks row).toList [])
  /-- The label moves on from the state.  A gate has marked the updates of its row. -/
  | moved {row : Record} {target : String} (created : DateTime)
      (hrow : s.row? label = some row) (hlive : row.deleted = false)
      (hhere : (History.ofEntries (s.history label)).state? = some state.name) :
      StepEffect state label s (.ok (.moved state.name target))
        (s.written (state.marks row).toList
          [⟨.transition label state.name target, s.nextId, created⟩])

section Effect

variable {state : State} {label : Label} {s after : Store}
  {result : Except EngineError Outcome}

variable (state) in
/-- The mark replaces the row of its own label only. -/
theorem Store.row?_written_mark {row : Record} (hlabel : row.label = label)
    (entries : List Entry) (other : Label) :
    (s.written (state.marks row).toList entries).row? other =
      if other = label then (state.marks row).or (s.row? other) else s.row? other := by
  cases hmark : state.marks row with
  | none => simp [Store.written, putRows, Store.row?]
  | some marked =>
      have hmarked : marked.label = label := (State.label_of_marks hmark).trans hlabel
      simp only [Store.written, Store.row?, Option.toList_some, putRows,
        List.foldl_cons, List.foldl_nil, findRow_putRow, hmarked, Option.some_or,
        eq_comm (a := label)]

/-- Histories grow at their end. -/
theorem Store.history_written (rows : List Record) (entries : List Entry)
    (other : Label) :
    (s.written rows entries).history other =
      s.history other ++ entriesOf entries other := by
  simp [Store.written, Store.history]

end Effect

/-- What a step on a state leaves in the transaction of a lone client. -/
theorem stepIn_effect {σ : Type} (around : Surroundings σ) (app : App) (m : Machine)
    (state : State) (label : Label) {client : Client} {s : Store}
    (hidle : s.transaction? client = none) (locked : List Label) (x : σ) :
    ∃ result after, around.Makes client (stepIn app m state label) s locked
      x result after ∧
      StepEffect state label s result after := by
  cases hfound : s.inquire client label with
  | error error => exact ⟨_, _, Surroundings.stepIn_unfound hidle hfound, .failed error⟩
  | ok found =>
      obtain ⟨row, history⟩ := found
      obtain ⟨hrow, hlive, rfl⟩ := Store.inquire_eq_ok hfound
      by_cases hhere : (History.ofEntries (s.history label)).state? = some state.name
      · obtain ⟨y, created, hmakes⟩ :=
          Surroundings.stepIn_here around x locked app m hidle hfound hhere
        refine ⟨_, _, hmakes, ?_⟩
        cases ((state.consider app m label row.metadata
            (History.ofEntries (s.history label))).run.runWith around.answer y).1 with
        | error error => exact .failed error
        | ok decision =>
            cases decision with
            | none => exact .stayed hrow hlive hhere
            | some target => exact .moved created hrow hlive hhere
      · exact ⟨_, _, Surroundings.stepIn_elsewhere hidle hfound hhere,
          .elsewhere hrow hlive hhere⟩

/-- **The effect of a step.**  Whatever the store holds, the label is in, the state is,
and the surroundings answer: a step that moves the label appends one move that was
earned, from the state, to the history of the label; one that stays appends nothing;
either changes nothing else, but that a gate the label is in marks the updates of its
row; and a step that fails leaves the store as it was. -/
theorem stepOnce_effect {σ : Type} (around : Surroundings σ) (app : App)
    (m : Machine) (state : State) (label : Label) (client : Client) (s : Store) (x : σ) :
    StepEffect state label (s.rollback client)
      (around.does client (stepOnce app m state label).run s x).1
      (around.does client (stepOnce app m state label).run s x).2.1 := by
  obtain ⟨result, after, ⟨ended, x', hdoes, rfl⟩, heffect⟩ :=
    stepIn_effect around app m state label
      (Store.transaction?_rollback_self s client) [] (around.answer (.store .begin) x).2
  obtain ⟨x'', hstep⟩ := Surroundings.does_inTransaction hdoes
  unfold stepOnce
  rw [hstep]
  exact heffect

end Turnstile
