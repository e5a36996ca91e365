import Turnstile.Proofs.Engine.Company
import Turnstile.Proofs.Engine.Whereabouts

/-!
# The visits of a batch

A batch looks for its labels once, and then gives each of them a turn, while others may
be at work in the store.  What it comes to is read off the turns.

* `attend` : what a batch does for one label, and the `Report` of it.
* `Rounds` : the turns of a batch, one after the other, until an end is asked for.
* `runBatch_among` : a batch always has a summary, and it is the `Tally` of its turns.
-/

set_option autoImplicit false

namespace Turnstile

/-! ## Reports -/

/-- What comes of a label that a batch visits. -/
structure Report where
  label : Label
  first : Except EngineError Outcome
  /-- What the drain came to, if the first step moved the label. -/
  drained : Option (Except EngineError DrainSummary)

/-- Make a step on a state for a label, in a transaction of its own, and drain the label
if it moved. -/
def attend (app : App) (m : Machine) (state : State) (label : Label) : Work Report := do
  match ← (stepOnce app m state label).run with
  | .ok (.moved source target) => do
    let drained ← (drain app label).run
    pure ⟨label, .ok (.moved source target), some drained⟩
  | first => pure ⟨label, first, none⟩

/-- The label was deleted, or there is none. -/
def EngineError.isGone : EngineError → Bool
  | .deletedLabel _ => true
  | .unknownLabel _ => true
  | _ => false

namespace Report

/-- The first step has moved the label. -/
def progressed (report : Report) : Bool :=
  match report.first with
  | .ok (.moved _ _) => true
  | _ => false

/-- The first step or the drain has failed, and not because the label is gone. -/
def failed (report : Report) : Bool :=
  match report.first, report.drained with
  | .error error, _ => !error.isGone
  | .ok _, some (.error error) => !error.isGone
  | .ok _, _ => false

/-- The error that is logged of a visit. -/
def complaint (state : String) (report : Report) : Option LogEvent :=
  match report.first, report.drained with
  | .error (.deletedLabel _), _ => none
  | .error (.unknownLabel _), _ => none
  | .error error, _ => some (visitFailure report.label state error)
  | .ok _, some (.error (.deletedLabel _)) => none
  | .ok _, some (.error error) => some (drainFailure report.label error)
  | .ok _, _ => none

/-- The visit as it is counted. -/
def visit (state : String) (report : Report) : Visit :=
  ⟨report.progressed, (report.complaint state).isSome⟩

/-- The drain has not failed because the label is unknown. -/
def Certain (report : Report) : Prop :=
  ∀ other, report.drained ≠ some (.error (.unknownLabel other))

/-- What is logged is what has failed. -/
theorem isSome_complaint {report : Report} (h : report.Certain) (state : String) :
    (report.complaint state).isSome = report.failed := by
  obtain ⟨label, first, drained⟩ := report
  cases first with
  | error error => cases error <;> rfl
  | ok outcome =>
      cases drained with
      | none => rfl
      | some drained =>
          cases drained with
          | ok summary => rfl
          | error error =>
              cases error with
              | unknownLabel other => exact absurd rfl (h other)
              | _ => rfl

end Report

/-- Log an error, if there is one. -/
def tellIfAny : Option LogEvent → Work Unit
  | none => pure ()
  | some event => tellLog event

section Attend

variable {σ τ : Type} {app : App} {m : Machine} {state : State} {label : Label}

/-- **A visit** attends to its label, and logs what has failed. -/
theorem visit_eq : visit app m state label = (do
    let report ← attend app m state label
    tellIfAny (report.complaint state.name)
    pure (report.visit state.name)) := by
  unfold visit attend drainMoved
  simp only [bind_assoc]
  apply bind_congr
  intro first
  cases first with
  | error error => cases error <;> rfl
  | ok outcome =>
      cases outcome with
      | stayed => rfl
      | moved source target =>
          simp only [bind_assoc]
          apply bind_congr
          intro drained
          cases drained with
          | ok summary => rfl
          | error error => cases error <;> rfl

/-- The report is on the label, whatever the world answers. -/
theorem label_of_attend {serve : (r : Request) → τ → r.Answer × τ} {w after : τ}
    {report : Report} (h : (attend app m state label).runWith serve w = (report, after)) :
    report.label = label := by
  have hlabel : ((attend app m state label).runWith serve w).1.label = label := by
    unfold attend
    refine (congrArg (fun ran : Report × τ => ran.1.label)
      (Work.runWith_bind _ _ _ _)).trans ?_
    split
    · exact congrArg (fun ran : Report × τ => ran.1.label) (Work.runWith_bind _ _ _ _)
    · rfl
  rw [h] at hlabel
  exact hlabel

/-- While the label has a row, no drain of it fails because it is unknown. -/
theorem certain_attend :
    (attend app m state label).Follows (present label)
      (fun report _ => report.Certain) () := by
  apply Work.follows_bind.2
  apply (follows_present _).mono
  intro first _ _
  split
  · apply Work.follows_bind.2
    apply Work.Follows.mono certain_drain
    intro drained _ hdrained other heq
    exact hdrained other (Option.some.inj heq)
  · exact fun other => nofun

end Attend

/-! ## Turns -/

/-- The turn of a label in a batch: the world at its beginning, the report, and the
world at its end. -/
structure Turn (τ : Type) where
  before : τ
  report : Report
  after : τ

/-- The turns of a batch that goes through names of labels, whether it has come to an
early end, and the world that it leaves. -/
inductive Rounds {τ : Type} (serve : (r : Request) → τ → r.Answer × τ) (app : App)
    (m : Machine) (state : State) :
    List String → τ → List (Turn τ) → Bool → τ → Prop
  /-- All labels have had their turns. -/
  | finished (w : τ) : Rounds serve app m state [] w [] false w
  /-- An end is asked for before the turn of a label. -/
  | stopped {name : String} {rest : List String} {w last : τ}
      (hstop : serve .stopRequested w = (true, last)) :
      Rounds serve app m state (name :: rest) w [] true last
  /-- A label has its turn, and then the others have theirs. -/
  | turn {name : String} {rest : List String} {w after last : τ} {turn : Turn τ}
      {turns : List (Turn τ)} {interrupted : Bool}
      (hgo : serve .stopRequested w = (false, turn.before))
      (hattend : (attend app m state ⟨name, m.name⟩).runWith serve turn.before =
        (turn.report, turn.after))
      (htold : (tellIfAny (turn.report.complaint state.name)).runWith serve turn.after =
        ((), after))
      (hrest : Rounds serve app m state rest after turns interrupted last) :
      Rounds serve app m state (name :: rest) w (turn :: turns) interrupted last

/-- A summary tells of the turns that were given to the first ones of some names, or to
all of them. -/
structure Tally {τ : Type} (m : Machine) (names : List String) (turns : List (Turn τ))
    (summary : BatchSummary) : Prop where
  visited : turns.map (fun turn => turn.report.label) =
    (names.take turns.length).map fun name => ⟨name, m.name⟩
  interrupted : summary.interrupted = true ↔ turns.length < names.length
  processed : summary.processed = turns.length
  progressed : summary.progressed = turns.countP fun turn => turn.report.progressed
  failed : summary.failed = turns.countP fun turn => turn.report.failed

section Rounds

variable {τ : Type} {serve : (r : Request) → τ → r.Answer × τ} {app : App} {m : Machine}
  {state : State} {names : List String} {turns : List (Turn τ)} {interrupted : Bool}
  {w last : τ}

/-- Count the visits of turns. -/
def BatchSummary.countAll (summary : BatchSummary) (state : String)
    (turns : List (Turn τ)) : BatchSummary :=
  turns.foldl (fun sum turn => sum.count (turn.report.visit state)) summary

variable (serve app m state) in
/-- **A batch gives turns.** -/
theorem visitAll_rounds (names : List String) (summary : BatchSummary) (w : τ) :
    ∃ turns interrupted last, Rounds serve app m state names w turns interrupted last ∧
      (visitAll app m state (Work.request .stopRequested) summary names).runWith serve w =
        ({ summary.countAll state.name turns with interrupted := summary.interrupted ||
          interrupted }, last) := by
  induction names generalizing summary w with
  | nil =>
      exact ⟨[], false, w, .finished w,
        by simp [visitAll, BatchSummary.countAll, Work.runWith, pure]⟩
  | cons name rest ih =>
      rcases hpoll : serve .stopRequested w with ⟨stop, begun⟩
      have hasked :
        (visitAll app m state (Work.request .stopRequested) summary
          (name :: rest)).runWith serve w =
          Work.runWith serve (if stop then pure { summary with interrupted := true }
            else do
              let v ← visit app m state ⟨name, m.name⟩
              visitAll app m state (Work.request .stopRequested) (summary.count v) rest)
              begun := by
        change Work.runWith serve (Work.ask .stopRequested _) w = _
        rw [Work.runWith, hpoll]
        rfl
      cases stop with
      | true =>
          refine ⟨[], true, begun, .stopped hpoll, hasked.trans ?_⟩
          simp [BatchSummary.countAll, Work.runWith, pure]
      | false =>
          rcases hattend : (attend app m state ⟨name, m.name⟩).runWith serve begun
            with ⟨report, attended⟩
          rcases htold : (tellIfAny (report.complaint state.name)).runWith serve attended
            with ⟨⟨⟩, told⟩
          obtain ⟨turns, interrupted, last, hrounds, hrun⟩ :=
            ih (summary.count (report.visit state.name)) told
          refine ⟨⟨begun, report, attended⟩ :: turns, interrupted, last,
            .turn hpoll hattend htold hrounds, ?_⟩
          have hvisit :
              (visit app m state ⟨name, m.name⟩).runWith serve begun =
              (report.visit state.name, told) := by
            rw [visit_eq]
            refine (Work.runWith_bind _ _ _ _).trans ?_
            rw [hattend]
            refine (Work.runWith_bind _ _ _ _).trans ?_
            rw [htold]
            rfl
          refine (hasked.trans (Work.runWith_bind _ _ _ _)).trans ?_
          rw [hvisit]
          exact hrun

/-- Turns are counted from the first. -/
theorem BatchSummary.countAll_cons (summary : BatchSummary)
    (state : String) (turn : Turn τ) (turns : List (Turn τ)) :
    summary.countAll state (turn :: turns) =
      (summary.count (turn.report.visit state)).countAll state turns := rfl

/-- What is counted. -/
theorem BatchSummary.countAll_eq (summary : BatchSummary) (state : String)
    (turns : List (Turn τ)) :
    summary.countAll state turns = { summary with
      processed := summary.processed + turns.length
      progressed := summary.progressed + turns.countP fun turn => turn.report.progressed
      failed := summary.failed + turns.countP fun turn =>
        (turn.report.complaint state).isSome } := by
  induction turns generalizing summary with
  | nil => rfl
  | cons turn rest ih =>
      rw [countAll_cons, ih, List.length_cons, List.countP_cons, List.countP_cons]
      simp only [BatchSummary.count, Report.visit, BatchSummary.mk.injEq, and_true]
      refine ⟨by omega, ?_, ?_⟩
      · cases turn.report.progressed
        · simp
        · simp; omega
      · cases (turn.report.complaint state).isSome
        · simp
        · simp; omega

/-- The labels that have a turn are the first ones, and the others are those before
which an end was asked for. -/
theorem Rounds.visited (h : Rounds serve app m state names w turns interrupted last) :
    turns.map (fun turn => turn.report.label) =
      (names.take turns.length).map (fun name => ⟨name, m.name⟩) ∧
      (interrupted = true ↔ turns.length < names.length) := by
  induction h with
  | finished w => simp
  | stopped hstop => simp
  | @turn name rest w after last turn turns interrupted hgo hattend htold hrest ih =>
      refine ⟨?_, ?_⟩
      · rw [List.map_cons, label_of_attend hattend, ih.1]
        rfl
      · rw [ih.2, List.length_cons, List.length_cons]
        omega

/-- A label whose name is not among those that are gone through has no turn. -/
theorem Rounds.label_ne (h : Rounds serve app m state names w turns interrupted last)
    {name : String} (hname : name ∉ names) :
    ∀ turn ∈ turns, turn.report.label ≠ ⟨name, m.name⟩ := by
  intro turn hturn hlabel
  have hin : turn.report.label ∈ turns.map fun turn => turn.report.label :=
    List.mem_map_of_mem hturn
  rw [h.visited.1, hlabel] at hin
  obtain ⟨other, hother, hsame⟩ := List.mem_map.1 hin
  obtain rfl : other = name := congrArg Label.name hsame
  exact hname (List.mem_of_mem_take hother)

end Rounds

/-! ## Batches among others -/

/-- The names of the selected labels in a state. -/
def Store.candidates (s : Store) (m : Machine) (state : State) (selection : Selection) :
    List String :=
  ((s.rowsInState m.name state.name).filter selection.admits).map fun row =>
    row.label.name

section Among

variable {σ : Type} {around : Surroundings σ} {client : Client} {others : Others σ}
  {app : App} {m : Machine} {state : State} {selection : Selection} {s : Store}
  {names : List String}

/-- Candidates come in the order of their names. -/
theorem Store.candidates_ordered (honce : (s.rows.map (·.label)).Nodup) :
    (s.candidates m state selection).Pairwise (· < ·) :=
  (s.namesInState_ordered honce m.name state.name).sublist (List.filter_sublist.map _)

/-- **Candidates** are the live labels in the state that the selection admits. -/
theorem Store.mem_candidates (honce : (s.rows.map (·.label)).Nodup) {name : String} :
    name ∈ s.candidates m state selection ↔
      ∃ row, s.row? ⟨name, m.name⟩ = some row ∧ row.deleted = false ∧
        s.lastState? ⟨name, m.name⟩ = some state.name ∧ selection.admits row = true := by
  unfold candidates
  simp only [List.mem_map, List.mem_filter]
  constructor
  · rintro ⟨row, ⟨hlisted, hadmits⟩, rfl⟩
    obtain ⟨hrow, hmachine, hlive, hlast⟩ := (mem_rowsInState honce).1 hlisted
    have hlabel : (⟨row.label.name, m.name⟩ : Label) = row.label := by rw [← hmachine]
    rw [hlabel]
    exact ⟨row, hrow, hlive, hlast, hadmits⟩
  · rintro ⟨row, hrow, hlive, hlast, hadmits⟩
    have hlabel : row.label = ⟨name, m.name⟩ := label_of_findRow hrow
    refine ⟨row, ⟨(mem_rowsInState honce).2 ?_, hadmits⟩, by rw [hlabel]⟩
    rw [hlabel]
    exact ⟨hrow, rfl, hlive, hlast⟩

/-- While others are at work, the labels that had rows at the beginning have them in
their turns. -/
theorem Rounds.certain {w last : Store × σ} {turns : List (Turn (Store × σ))}
    {interrupted : Bool}
    (h : Rounds (around.among client others) app m state names w turns interrupted last)
    (hrows : ∀ name ∈ names, (w.1.row? ⟨name, m.name⟩).isSome) :
    ∀ turn ∈ turns, turn.report.Certain := by
  induction h with
  | finished w => simp
  | stopped hstop => simp
  | @turn name rest w after last turn turns interrupted hgo hattend htold hrest ih =>
      have hpolled : (Work.request .stopRequested).runWith (around.among client others)
          w = (false, turn.before) := hgo
      have hbegun : ∀ {label}, (w.1.row? label).isSome →
          (turn.before.1.row? label).isSome :=
        fun hrow => row?_isSome_among hpolled hrow
      have hended : ∀ {label}, (turn.before.1.row? label).isSome →
          (after.1.row? label).isSome :=
        fun hrow => row?_isSome_among htold (row?_isSome_among hattend hrow)
      intro other hother
      rcases List.mem_cons.1 hother with rfl | hlater
      · obtain ⟨-, hcertain, -⟩ :=
          certain_attend.runWith (present_keptBy around client others _)
            (hbegun (hrows name List.mem_cons_self))
        rw [hattend] at hcertain
        exact hcertain
      · refine ih ?_ other hlater
        intro later hmem
        exact hended (hbegun (hrows later (List.mem_cons_of_mem name hmem)))

/-- A batch on a state that is not terminal looks for its labels, and visits them. -/
theorem runBatch_run (around : Surroundings σ) (client : Client) (others : Others σ)
    (app : App) (m : Machine) (state : State) (selection : Selection) (s : Store) (x : σ)
    (hopen : state.isTerminal = false) :
    (runBatch app m state selection (Work.request .stopRequested)).run.runWith
      (around.among client others) (s, x) =
      Prod.map .ok id ((visitAll app m state (Work.request .stopRequested) {}
        (s.candidates m state selection)).runWith (around.among client others)
          (around.among client others
            (.store (.rowsInState m.name state.name)) (s, x)).2) := by
  have hlisted :
      (runBatch app m state selection (Work.request .stopRequested)).run.runWith
          (around.among client others) (s, x) =
        ((visitAll app m state (Work.request .stopRequested) {}
          (s.candidates m state selection)).bind
          fun summary => .done (.ok summary : Except EngineError BatchSummary)).runWith
            (around.among client others)
            (around.among client others
              (.store (.rowsInState m.name state.name)) (s, x)).2 := by
    unfold runBatch
    simp only [hopen, Bool.false_eq_true, if_false]
    rfl
  rw [hlisted, Work.runWith_bind]
  rfl

/-- **Batches.**  Whatever others do meanwhile, a batch on a state that is not terminal
has a summary, which tells of the turns of its labels. -/
theorem runBatch_among (around : Surroundings σ) (client : Client) (others : Others σ)
    (app : App) (m : Machine) (state : State) (selection : Selection) (s : Store) (x : σ)
    (hopen : state.isTerminal = false) (honce : (s.rows.map (·.label)).Nodup) :
    ∃ turns summary last,
      (runBatch app m state selection (Work.request .stopRequested)).run.runWith
        (around.among client others) (s, x) =
        (.ok summary, last) ∧
      Rounds (around.among client others) app m state (s.candidates m state selection)
        (around.among client others (.store (.rowsInState m.name state.name)) (s, x)).2
          turns summary.interrupted
        last ∧
      Tally m (s.candidates m state selection) turns summary := by
  obtain ⟨turns, interrupted, last, hrounds, hrun⟩ :=
    visitAll_rounds (around.among client others) app m state
      (s.candidates m state selection) {}
      (around.among client others (.store (.rowsInState m.name state.name)) (s, x)).2
  have hrows : ∀ name ∈ s.candidates m state selection,
      ((around.among client others
        (.store (.rowsInState m.name state.name)) (s, x)).2.1.row?
        ⟨name, m.name⟩).isSome := by
    intro name hname
    obtain ⟨row, hrow, -⟩ := (Store.mem_candidates honce).1 hname
    apply others.keep
    change (s.row? _).isSome
    rw [hrow]
    rfl
  have hcertain := hrounds.certain hrows
  obtain ⟨hvisited, hinterrupted⟩ := hrounds.visited
  have hcomplaints :
      (turns.countP fun turn => (turn.report.complaint state.name).isSome) =
        turns.countP fun turn => turn.report.failed :=
    List.countP_congr fun turn hturn => by
      rw [Report.isSome_complaint (hcertain turn hturn)]
  rw [BatchSummary.countAll_eq, hcomplaints] at hrun
  let summary : BatchSummary :=
    ⟨turns.length, turns.countP fun turn => turn.report.progressed,
      turns.countP fun turn => turn.report.failed, interrupted⟩
  refine ⟨turns, summary, last, ?_, hrounds, ⟨hvisited, hinterrupted, rfl, rfl, rfl⟩⟩
  rw [runBatch_run around client others app m state selection s x hopen, hrun]
  simp [summary]

end Among

end Turnstile
