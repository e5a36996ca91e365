import Turnstile.Proofs.Engine.Run
import Turnstile.Proofs.Engine.Twins
import Turnstile.Proofs.Flow.Built

/-!
# Work and its shadow on a label

A batch works on many labels, one after the other.  Its shadow on a label is what is
left of it when it is done in a store that holds that label alone: where the batch works
on the label so does the shadow, and where it works on another the shadow waits.
`Work.Shadows` says so of any two pieces of work.

Every call has a shadow on every label: itself, if the call concerns the label
(`Call.shadows`), and nothing, if it does not (`Call.shadows_nothing`).
-/

set_option autoImplicit false

namespace Turnstile

open Agenda (Job runJob)
open Time (Window)

variable {α β γ δ : Type}

/-- The second work is the shadow of the first on a label.  Whether the first has a
transaction open, and whether the second has, is kept along; while they work on the
label both have, or neither. -/
inductive Work.Shadows (label : Label) : Bool → Bool → Work α → Work β → Prop
  | done {a : α} {b : β} : Shadows label false false (.done a) (.done b)
  /-- Both ask for the same about the label. -/
  | both {opened opened' : Bool} {r : Request} {next : r.Answer → Work α}
      {next' : r.Answer → Work β} (hwithin : r.Within label opened opened')
      (hnext : ∀ answer answer', r.Alike label answer answer' →
        Shadows label opened' opened' (next answer) (next' answer')) :
      Shadows label opened opened (.ask r next) (.ask r next')
  /-- Both deliver the same for the label, up to the token. -/
  | deliver {opened : Bool} {delivery delivery' : Delivery} {next : Delivered → Work α}
      {next' : Delivered → Work β} (halike : delivery.Alike delivery')
      (hnext : ∀ result, Shadows label opened opened (next result) (next' result)) :
      Shadows label opened opened (.ask (.deliver delivery) next)
        (.ask (.deliver delivery') next')
  /-- The first works on another label, and the shadow waits. -/
  | alone {about : Label} {opened opened' : Bool} {r : Request}
      {next : r.Answer → Work α} {rest : Work β}
      (habout : about ≠ label) (hwithin : r.Within about opened opened')
      (hnext : ∀ answer answer', r.Alike about answer answer' →
        Shadows label opened' false (next answer) rest) :
      Shadows label opened false (.ask r next) rest

namespace Work

variable {label about : Label} {opened opened' closing : Bool} {same : α → β → Prop}

/-- Work in sequence has its shadows in sequence. -/
theorem Shadows.bind {work : Work α} {other : Work β} {next : α → Work γ}
    {next' : β → Work δ} (h : work.Shadows label opened opened' other)
    (hnext : ∀ a b, (next a).Shadows label false false (next' b)) :
    (work >>= next).Shadows label opened opened' (other >>= next') := by
  induction h with
  | done => exact hnext _ _
  | both hwithin _ ih => exact .both hwithin ih
  | deliver halike _ ih => exact .deliver halike ih
  | alone habout hwithin _ ih => exact .alone habout hwithin ih

/-- Nobody asks for an end, so the work goes on. -/
theorem shadows_stopRequested {next : Bool → Work γ} {next' : Bool → Work δ}
    (h : (next false).Shadows label opened opened (next' false)) :
    (request .stopRequested >>= next).Shadows label opened opened
      (request .stopRequested >>= next') := by
  refine .both .stopRequested ?_
  rintro _ _ ⟨rfl, rfl⟩
  exact h

/-- A question whether to stop has no shadow elsewhere. -/
theorem shadows_stopRequested_alone {next : Bool → Work γ} {rest : Work δ}
    (habout : about ≠ label) (h : (next false).Shadows label opened false rest) :
    (request .stopRequested >>= next).Shadows label opened false rest := by
  refine .alone habout .stopRequested ?_
  rintro _ _ ⟨rfl, -⟩
  exact h

/-- Work on the label is a shadow of its twin. -/
theorem Twins.shadows {work : Work α} {other : Work β} {next : α → Work γ}
    {next' : β → Work δ} (h : work.Twins label closing same opened other)
    (hnext : ∀ a b, same a b → (next a).Shadows label closing closing (next' b)) :
    (work >>= next).Shadows label opened opened (other >>= next') := by
  induction h with
  | done hsame => exact hnext _ _ hsame
  | ask hwithin _ ih => exact .both hwithin ih
  | deliver halike _ ih => exact .deliver halike ih

/-- Work on another label has no shadow; what comes after it may have one. -/
theorem Twins.alone {work : Work α} {other : Work β} {next : α → Work γ} {rest : Work δ}
    (h : work.Twins about closing same opened other) (habout : about ≠ label)
    (hnext : ∀ a b, same a b → (next a).Shadows label closing false rest) :
    (work >>= next).Shadows label opened false rest := by
  induction h with
  | done hsame => exact hnext _ _ hsame
  | ask hwithin _ ih => exact .alone habout hwithin ih
  | deliver halike _ ih => exact .alone habout (.deliver _) fun result _ _ => ih result

end Work

namespace Attempt

variable {label about : Label} {same : α → β → Prop}

/-- `Work.Shadows` for work that can fail and has no transaction open. -/
def Shadows (label : Label) (attempt : Attempt α) (other : Attempt β) : Prop :=
  attempt.run.Shadows label false false other.run

theorem Twins.shadows {attempt : Attempt α} {other : Attempt β}
    (h : attempt.Twins label false same false other) : attempt.Shadows label other := by
  have hshadows : (attempt.run >>= pure).Shadows label false false (other.run >>= pure) :=
    Work.Twins.shadows h fun _ _ _ => .done
  simp only [bind_pure] at hshadows
  exact hshadows

theorem Twins.shadows_nothing {attempt : Attempt α} {other : Attempt β}
    (h : attempt.Twins about false same false other) (habout : about ≠ label) :
    attempt.Shadows label (pure () : Attempt Unit) := by
  have hshadows :
      (attempt.run >>= pure).Shadows label false false (pure () : Attempt Unit).run :=
    Work.Twins.alone h habout fun _ _ _ => .done
  simp only [bind_pure] at hshadows
  exact hshadows

theorem shadows_pure (a : α) (b : β) :
    (pure a : Attempt α).Shadows label (pure b : Attempt β) := .done

/-- Work that cannot fail. -/
theorem shadows_ofWork {work : Work α} {other : Work β}
    (h : work.Shadows label false false other) :
    (ofWork work).Shadows label (ofWork other) := h.bind fun _ _ => .done

/-- An attempt that takes its choice from a result fails with it or goes on. -/
theorem shadows_ofExcept {ε : Type} {wrap : ε → EngineError} {result : Except ε α}
    {next : α → Attempt γ} {next' : α → Attempt δ}
    (h : ∀ a, result = .ok a → (next a).Shadows label (next' a)) :
    (ofExcept wrap result >>= next).Shadows label (ofExcept wrap result >>= next') := by
  cases result with
  | ok a => exact h a rfl
  | error cause => exact .done

/-- An attempt that fails has no need of a shadow. -/
theorem shadows_nothing_ofExcept {ε : Type} {wrap : ε → EngineError} {result : Except ε α}
    {next : α → Attempt γ}
    (h : ∀ a, result = .ok a → (next a).Shadows label (pure () : Attempt Unit)) :
    (ofExcept wrap result >>= next).Shadows label (pure () : Attempt Unit) := by
  cases result with
  | ok a => exact h a rfl
  | error cause => exact .done

theorem shadows_map {attempt : Attempt α} {other : Attempt β}
    (wrap : α → γ) (wrap' : β → δ) (h : attempt.Shadows label other) :
    (do let a ← attempt; pure (wrap a) : Attempt γ).Shadows label
      (do let b ← other; pure (wrap' b) : Attempt δ) := by
  unfold Attempt.Shadows at *
  rw [ExceptT.run_bind, ExceptT.run_bind]
  refine h.bind fun result result' => ?_
  cases result <;> cases result' <;> exact .done

theorem shadows_nothing_map {attempt : Attempt α} (wrap : α → γ)
    (h : attempt.Shadows label (pure () : Attempt Unit)) :
    (do let a ← attempt; pure (wrap a) : Attempt γ).Shadows label
      (pure () : Attempt Unit) := by
  unfold Attempt.Shadows at *
  rw [ExceptT.run_bind, ← bind_pure (pure () : Attempt Unit).run]
  refine h.bind fun result result' => ?_
  cases result <;> exact .done

end Attempt

/-! ## Batches -/

section Batches

variable {label : Label} {app : App} {m : Machine} {state : State} {selection : Selection}

/-- **The visits of a batch.**  Of all the names that a batch visits, in whatever order,
its shadow visits that of the label. -/
theorem shadows_visitAll (hmachine : m.name = label.machine) (names : List String)
    (summary summary' : BatchSummary) :
    (visitAll app m state (Work.request .stopRequested) summary names).Shadows
      label false false
      (visitAll app m state (Work.request .stopRequested) summary'
        (names.filter fun name => name = label.name)) := by
  induction names generalizing summary summary' with
  | nil => exact .done
  | cons name rest ih =>
      by_cases hname : name = label.name
      · rw [List.filter_cons_of_pos (by simpa using hname), visitAll, visitAll]
        refine Work.shadows_stopRequested ?_
        simp only [Bool.false_eq_true, if_false]
        rw [show (⟨name, m.name⟩ : Label) = label by rw [hname, hmachine]]
        exact Work.Twins.shadows (twins_visit state) fun _ _ _ => ih _ _
      · rw [List.filter_cons_of_neg (by simpa using hname), visitAll]
        have habout : (⟨name, m.name⟩ : Label) ≠ label :=
          fun h => hname (congrArg Label.name h)
        refine Work.shadows_stopRequested_alone habout ?_
        simp only [Bool.false_eq_true, if_false]
        exact Work.Twins.alone (twins_visit state) habout fun _ _ _ => ih _ _

/-- A batch on another machine visits none of the labels. -/
theorem shadows_nothing_visitAll (hmachine : m.name ≠ label.machine) (names : List String)
    (summary : BatchSummary) :
    (visitAll app m state (Work.request .stopRequested) summary names).Shadows
      label false false
      (pure () : Work Unit) := by
  induction names generalizing summary with
  | nil => exact .done
  | cons name rest ih =>
      rw [visitAll]
      have habout : (⟨name, m.name⟩ : Label) ≠ label :=
        fun h => hmachine (congrArg Label.machine h)
      refine Work.shadows_stopRequested_alone habout ?_
      simp only [Bool.false_eq_true, if_false]
      exact Work.Twins.alone (twins_visit state) habout fun _ _ _ => ih _

/-- Of the selected names, that of the label is selected among the rows of the label. -/
theorem names_filter (selection : Selection) {rows : List Record}
    (hmachine : ∀ row ∈ rows, row.label.machine = label.machine) :
    ((rows.filter fun row => row.label = label).filter selection.admits).map
      (fun row => row.label.name) =
      ((rows.filter selection.admits).map fun row => row.label.name).filter fun name =>
        name = label.name := by
  rw [List.filter_map, List.filter_filter, List.filter_filter]
  refine congrArg _ (List.filter_congr fun row hrow => ?_)
  have hsame : row.label = label ↔ row.label.name = label.name := by
    have hsecond := hmachine row hrow
    refine ⟨congrArg Label.name, fun hfirst => ?_⟩
    generalize row.label = other at hfirst hsecond
    cases other
    cases label
    simp only at hfirst hsecond
    rw [hfirst, hsecond]
  simp [hsame, Bool.and_comm]

/-- A batch over the label's machine has itself for a shadow. -/
theorem shadows_runBatch (hmachine : m.name = label.machine) :
    (runBatch app m state selection (Work.request .stopRequested)).Shadows label
      (runBatch app m state selection (Work.request .stopRequested)) := by
  unfold runBatch
  split
  · exact Attempt.shadows_pure _ _
  · refine .both (.store .rowsInState) ?_
    rintro _ _ ⟨rows, rfl, rfl, hrows⟩
    have hnames := names_filter selection (hmachine ▸ hrows)
    change Attempt.Shadows label (Attempt.ofWork (visitAll _ _ _ _ _ _))
      (Attempt.ofWork (visitAll _ _ _ _ _ _))
    rw [hnames]
    exact Attempt.shadows_ofWork (shadows_visitAll hmachine _ _ _)

/-- A batch over another machine has none. -/
theorem shadows_nothing_runBatch (hmachine : m.name ≠ label.machine) :
    (runBatch app m state selection (Work.request .stopRequested)).Shadows label
      (pure () : Attempt Unit) := by
  unfold runBatch
  split
  · exact Attempt.shadows_pure _ _
  · have habout : (⟨label.name, m.name⟩ : Label) ≠ label :=
      fun h => hmachine (congrArg Label.machine h)
    refine .alone habout (.store .rowsInState) ?_
    rintro _ _ ⟨rows, rfl, -⟩
    exact Attempt.shadows_ofWork (shadows_nothing_visitAll hmachine _ _)

end Batches

/-! ## Calls -/

section Calls

variable {label : Label} {app : App}

/-- Labels differ. -/
instance : Nontrivial Label := ⟨⟨"", ""⟩, ⟨"a", ""⟩, by decide⟩

/-- A batch called by the name of the label's machine has itself for a shadow. -/
theorem shadows_batchNamed (happ : app.Built) {machine state : String}
    {selection : Selection} (hmachine : label.machine = machine) :
    (batchNamed app machine state selection).Shadows label
      (batchNamed app machine state selection) := by
  refine Attempt.shadows_ofExcept fun m hm => Attempt.shadows_ofExcept fun found _ => ?_
  exact shadows_runBatch ((happ.machine hm).2.trans hmachine.symm)

/-- Called by another name it has none. -/
theorem shadows_nothing_batchNamed (happ : app.Built) {machine state : String}
    {selection : Selection} (hmachine : label.machine ≠ machine) :
    (batchNamed app machine state selection).Shadows label (pure () : Attempt Unit) := by
  refine Attempt.shadows_nothing_ofExcept fun m hm =>
    Attempt.shadows_nothing_ofExcept fun found _ => ?_
  exact shadows_nothing_runBatch fun h => hmachine (h.symm.trans (happ.machine hm).2)

/-- Jobs have the shadows of their batches. -/
theorem shadows_runJob (happ : app.Built) {due : Job} {window : Window}
    (hmachine : label.machine = due.machine) :
    (runJob app due window (Work.request .stopRequested)).Shadows label
      (runJob app due window (Work.request .stopRequested)) := by
  refine Attempt.shadows_ofExcept fun m hm => Attempt.shadows_ofExcept fun found _ => ?_
  have hname : m.name = label.machine := (happ.machine hm).2.trans hmachine.symm
  split
  · exact shadows_runBatch hname
  · exact shadows_runBatch hname
  · split
    · exact Attempt.shadows_pure _ _
    · exact shadows_runBatch hname
  · split
    · exact shadows_runBatch hname
    · exact Attempt.shadows_pure _ _

/-- Jobs over other machines have none. -/
theorem shadows_nothing_runJob (happ : app.Built) {due : Job} {window : Window}
    (hmachine : label.machine ≠ due.machine) :
    (runJob app due window (Work.request .stopRequested)).Shadows label
      (pure () : Attempt Unit) := by
  refine Attempt.shadows_nothing_ofExcept fun m hm =>
    Attempt.shadows_nothing_ofExcept fun found _ => ?_
  have hname : m.name ≠ label.machine :=
    fun h => hmachine (h.symm.trans (happ.machine hm).2)
  split
  · exact shadows_nothing_runBatch hname
  · exact shadows_nothing_runBatch hname
  · split
    · exact Attempt.shadows_pure _ _
    · exact shadows_nothing_runBatch hname
  · split
    · exact shadows_nothing_runBatch hname
    · exact Attempt.shadows_pure _ _

/-- **A call that concerns a label is its own shadow on the label.** -/
theorem Call.shadows (happ : app.Built) {call : Call} (hconcerns : call.Concerns label) :
    (call.perform app).Shadows label (call.perform app) := by
  cases call with
  | operation op =>
      exact Attempt.shadows_map _ _ (Operation.twins_perform hconcerns).shadows
  | batch machine state selection =>
      exact Attempt.shadows_map _ _ (shadows_batchNamed happ hconcerns)
  | job due window => exact Attempt.shadows_map _ _ (shadows_runJob happ hconcerns)

/-- **A call that does not concern a label has no shadow on it.** -/
theorem Call.shadows_nothing (happ : app.Built) {call : Call}
    (hconcerns : ¬ call.Concerns label) :
    (call.perform app).Shadows label (pure () : Attempt Unit) := by
  cases call with
  | operation op =>
      refine Attempt.shadows_nothing_map _ ?_
      cases habout : op.label? with
      | some about =>
          refine (Operation.twins_perform habout).shadows_nothing fun hsame =>
            hconcerns ?_
          exact habout.trans (congrArg some hsame)
      | none =>
          cases op with
          | list machine =>
              refine Attempt.shadows_nothing_map _
                (Attempt.shadows_nothing_ofExcept fun m _ => ?_)
              obtain ⟨about, habout⟩ := exists_ne label
              refine .alone habout (.store .liveNames) ?_
              rintro _ _ ⟨names, rfl⟩
              exact .done
          | _ => cases habout
  | batch machine state selection =>
      exact Attempt.shadows_nothing_map _ (shadows_nothing_batchNamed happ hconcerns)
  | job due window =>
      exact Attempt.shadows_nothing_map _ (shadows_nothing_runJob happ hconcerns)

end Calls

end Turnstile
