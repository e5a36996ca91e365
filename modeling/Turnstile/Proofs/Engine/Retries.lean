import Turnstile.Proofs.Engine.Solitary
import Turnstile.Proofs.Engine.Triggers

/-!
# No trigger is lost

A row that is not marked has updates that were not taken to its gate.  For every gate
that waits for updates and that labels can leave a retry is scheduled, a batch that
selects just those rows (`retry_scheduled`, `InGate.selected`).

A retry that works alone settles its gate.  A step on a gate leaves its label marked or
finds it elsewhere (`StepDeed.at_gate`), and no step takes a mark away
(`StepDeed.stepped`); so a visit that does not fail settles its label and leaves other
labels as they are (`solitary_visit`), and a batch without failures settles all of them
(`solitary_runBatch`).

With what is known of marked rows (`Chronicle.watched`) it follows that no trigger is lost
(`Chronicle.triggers_kept`).
-/

set_option autoImplicit false

namespace Turnstile

open Agenda (Cadence Job Schedule)
open Time (DateTime Span Window)

/-- A label is live, and in a gate of its machine. -/
structure InGate (app : App) (s : Store) (label : Label) (row : Record)
    (machine : Machine) (gate : Gate) : Prop where
  stored : s.row? label = some row
  live : row.deleted = false
  known : app.machine label.machine = .ok machine
  member : .gate gate ∈ machine.states
  here : s.lastState? label = some gate.name

/-- The job that takes the unmarked labels of a gate to it. -/
def retryOf (machine : Machine) (gate : Gate) : Job :=
  ⟨machine.name, gate.name, .metadataRetry⟩

variable {app : App} {s : Store} {label : Label} {row : Record} {machine : Machine}
  {gate : Gate}

/-! ## Retries are scheduled -/

/-- Jobs are scheduled in the order in which they are added. -/
theorem jobs_foldl_add (entries : List (Job × Cadence)) (schedule : Schedule Job)
    (now : DateTime) :
    (entries.foldl (fun s entry => s.add entry.1 entry.2 now) schedule).jobs =
      schedule.jobs ++ entries := by
  induction entries generalizing schedule with
  | nil => simp
  | cons entry rest ih =>
      rw [List.foldl_cons, ih]
      simp [Schedule.add, Schedule.jobs, Agenda.Slot.start]

/-- Where labels can leave a gate that waits for updates, its retry is scheduled. -/
theorem retry_scheduled {name : String} (hmachine : app.machine name = .ok machine)
    (hmember : .gate gate ∈ machine.states) (hopen : gate.route.isTerminal = false)
    (hwaits : gate.triggers.any Trigger.isOnUpdate = true) (now : DateTime) :
    (retryOf machine gate, .every (.ofSeconds app.settings.metadataRetry)) ∈
      (Agenda.configure app now).jobs := by
  have hlisted : (name, machine) ∈ app.machines := by
    unfold App.machine at hmachine
    split at hmachine
    · next found hfound =>
        cases hmachine
        exact Dictionary.mem_of_find? hfound
    · cases hmachine
  rw [Agenda.configure, jobs_foldl_add]
  refine List.mem_append_right _ (List.mem_flatMap.2 ⟨(name, machine), hlisted, ?_⟩)
  refine List.mem_flatMap.2 ⟨.gate gate, hmember, ?_⟩
  have hleft : (State.gate gate).isTerminal = false := hopen
  simp [Agenda.stateJobs, hleft, hwaits, retryOf]

/-- An attempt that has its value goes on with it. -/
theorem Attempt.ofExcept_ok_bind {α β ε : Type} {wrap : ε → EngineError} {a : α}
    {next : α → Attempt β} : (Attempt.ofExcept wrap (.ok a) >>= next) = next a := rfl

/-- The retry of a gate is a batch over the unmarked labels in it. -/
theorem runJob_retryOf (happ : app.Built) {name : String}
    (hmachine : app.machine name = .ok machine)
    (hmember : .gate gate ∈ machine.states) (window : Window) (stop : Work Bool) :
    Agenda.runJob app (retryOf machine gate) window stop =
      runBatch app machine (.gate gate) .unprocessed stop := by
  obtain ⟨hbuilt, rfl⟩ := happ.machine hmachine
  have hstate : machine.stateNamed gate.name = .ok (.gate gate) := by
    have hfound : machine.state? gate.name = some (.gate gate) :=
      hbuilt.state?_of_mem hmember
    rw [Machine.stateNamed, hfound]
  simp only [Agenda.runJob, retryOf, hmachine, hstate, Attempt.ofExcept_ok_bind]

/-- The retry of a gate selects the unmarked labels in it. -/
theorem InGate.selected (happ : app.Built) (h : InGate app s label row machine gate)
    (hunmarked : row.triggersProcessed = false) :
    row ∈ (s.rowsInState machine.name gate.name).filter Selection.unprocessed.admits := by
  obtain ⟨-, hname⟩ := happ.machine h.known
  have hrow : row ∈ s.rows := List.mem_of_find?_eq_some h.stored
  have hlabel : row.label = label := by simpa using List.find?_some h.stored
  have hhere := h.here
  refine List.mem_filter.2 ⟨?_, by simp [Selection.admits, hunmarked]⟩
  rw [Store.rowsInState, List.mem_mergeSort]
  refine List.mem_filter.2 ⟨List.mem_filter.2 ⟨hrow, ?_⟩, ?_⟩
  · simp [hlabel, hname, h.live]
  · simp [hlabel, hhere]

/-! ## A retry settles its gate -/

/-- Nothing of a label has to be taken to a gate: it is not there, or its row is
marked. -/
def Settled (app : App) (s : Store) (label : Label) (machine : Machine)
    (gate : Gate) : Prop :=
  ∀ row, InGate app s label row machine gate → row.triggersProcessed = true

/-- The row of a label is marked, if the label is live. -/
def Store.Marks (s : Store) (label : Label) : Prop :=
  ∀ row, s.row? label = some row → row.deleted = false → row.triggersProcessed = true

/-- What comes of a store by steps on a label: a marked row stays marked, and other
labels stay as they are. -/
structure Store.Stepped (label : Label) (before after : Store) : Prop where
  marks : before.Marks label → after.Marks label
  other : ∀ other, other ≠ label →
    after.row? other = before.row? other ∧ after.history other = before.history other

variable {client : Client} {call : Call} {before after : Store} {d : Desk} {state : State}
variable {outcome : Outcome} {scene : Scene}

namespace Store.Stepped

theorem trans {middle : Store} (h : Stepped label before middle)
    (h' : Stepped label middle after) :
    Stepped label before after where
  marks := h'.marks ∘ h.marks
  other other hother :=
    ⟨(h'.other other hother).1.trans (h.other other hother).1,
      (h'.other other hother).2.trans (h.other other hother).2⟩

theorem of_unchanged (h : before.Unchanged after) : Stepped label before after where
  marks hmarks row hrow := hmarks row ((h.row? label).symm.trans hrow)
  other other _ := ⟨h.row? other, h.history other⟩

end Store.Stepped

/-- A label with a marked row is settled everywhere. -/
theorem Store.Marks.settled (h : s.Marks label) : Settled app s label machine gate :=
  fun row hin => h row hin.stored hin.live

/-- Steps on one label leave others settled. -/
theorem Settled.stepped {other : Label} (h : Settled app before other machine gate)
    (hstepped : Store.Stepped label before after) (hother : other ≠ label) :
    Settled app after other machine gate := by
  obtain ⟨hrow, hpast⟩ := hstepped.other other hother
  intro row hin
  refine h row ⟨hrow ▸ hin.stored, hin.live, hin.known, hin.member, ?_⟩
  have hhere := hin.here
  rwa [Store.lastState?, hpast] at hhere

/-- A step that is committed keeps a mark. -/
theorem StepDeed.stepped (h : StepDeed app d state outcome)
    (hcommitted : before.Committed after d) :
    Store.Stepped d.label before after := by
  refine ⟨fun hmarks row hrow hlive => ?_, hcommitted.other⟩
  rw [hcommitted.rowAfter] at hrow
  have hsame : d.saved = none → row.triggersProcessed = true := by
    intro hsaved
    rw [Desk.rowAfter, hsaved, Option.none_or] at hrow
    exact hmarks row (hcommitted.row.trans hrow) hlive
  have hmarked : ∀ {old : Record}, d.Live old → d.saved = old.marked →
      row.triggersProcessed = true := by
    intro old hold hsaved
    rw [Desk.rowAfter_marked hold hsaved] at hrow
    cases hrow
    rfl
  cases h with
  | stayed hidle hquiet hsaved hadded => exact hsame hsaved
  | looked hat hsaved hadded hclosed => exact hmarked hat.live hsaved
  | passed hat hsaved hsaw hopen hnext hadds => exact hmarked hat.live hsaved
  | accepted hat hcurrent hsaved hheard hnext hadds => exact hsame hsaved

/-- A step on a gate that is committed leaves its label with a marked row, or it was not
there and has stayed where it is. -/
theorem StepDeed.at_gate (h : StepDeed app d (.gate gate) outcome)
    (hcommitted : before.Committed after d) :
    after.Marks d.label ∨ outcome = .stayed ∧
    after.lastState? d.label ≠ some gate.name := by
  have hmarks : ∀ {old : Record}, d.Live old → d.saved = old.marked →
      after.Marks d.label := by
    intro old hold hsaved row hrow hlive
    rw [hcommitted.rowAfter, Desk.rowAfter_marked hold hsaved] at hrow
    cases hrow
    rfl
  cases h with
  | stayed hidle hquiet hsaved hadded =>
      refine .inr ⟨rfl, ?_⟩
      rw [Store.lastState?, hcommitted.pastAfter, Desk.pastAfter, hadded, List.append_nil]
      exact hidle.resolve_right (by simp)
  | looked hat hsaved hadded hclosed => exact .inl (hmarks hat.live hsaved)
  | passed hat hsaved hsaw hopen hnext hadds => exact .inl (hmarks hat.live hsaved)

/-! ### What a worker does alone -/

/-- A step in a transaction of its own changes its label only, and keeps a mark. -/
theorem solitary_stepping (call : Call) {attempt : Attempt Outcome}
    (h : ∀ commits, attempt.Follows (protocol app call)
      (StepEnds app label commits fun d outcome => ∃ state, StepDeed app d state outcome)
      ⟨commits, .begun⟩) :
    (inTransaction attempt).Follows (solitary app client)
      (fun _ after => Store.Stepped label scene.store after.store) scene := by
  refine (solitary_inTransaction call h).mono fun result after hends => ?_
  cases result with
  | ok outcome =>
      obtain ⟨d, rfl, ⟨state, hdeed⟩, hcommitted⟩ := hends
      exact hdeed.stepped hcommitted
  | error error => exact .of_unchanged hends.1

/-- A drain, alone with its store, touches its own label only. -/
theorem solitary_drainFrom {limit remaining : Nat}
    (hmachine : app.machine label.machine = .ok machine) :
    (drainFrom app machine label limit remaining).Follows (solitary app client)
      (fun _ after => Store.Stepped label scene.store after.store) scene := by
  induction remaining generalizing scene with
  | zero =>
      exact Attempt.follows_bind.2 (Attempt.follows_ofWork.2
        (solitary_tellLog (.of_unchanged (.refl scene.store))))
  | succ remaining ih =>
      refine Work.follows_bind.2 ((solitary_stepping (.operation (.drain label))
        fun commits => stepCurrent_ends (.inl rfl) hmachine).mono
          fun result after hafter => ?_)
      split
      · exact ih.mono fun _ _ hlast => hafter.trans hlast
      all_goals exact hafter

theorem solitary_drain :
    (drain app label).Follows (solitary app client)
      (fun _ after => Store.Stepped label scene.store after.store) scene := by
  refine Attempt.follows_bind.2 (Attempt.follows_ofExcept.2 ?_)
  cases hmachine : app.machine label.machine with
  | error error => exact Store.Stepped.of_unchanged (.refl scene.store)
  | ok m => exact solitary_drainFrom hmachine

theorem solitary_drainMoved :
    (drainMoved app label).Follows (solitary app client)
      (fun _ after => Store.Stepped label scene.store after.store) scene := by
  refine Work.follows_bind.2 (solitary_drain.mono fun result after hafter => ?_)
  split
  · exact hafter
  · exact hafter
  · exact Work.follows_bind.2 (solitary_tellLog hafter)

/-- A label that a step has not found live is settled everywhere. -/
theorem Settled.of_failure {error : EngineError} {other : Label}
    (h : StepFailure app d error) (hrow : s.row? label = d.row)
    (hgone : error = .deletedLabel other ∨ error = .unknownLabel other) :
    Settled app s label machine gate := by
  intro row hin
  have hfound := hrow.symm.trans hin.stored
  rcases hgone with rfl | rfl
  · cases h with
    | deleted hold hdeleted =>
        cases hold.symm.trans hfound
        exact absurd hin.live (by simp [hdeleted])
  · cases h with
    | unborn hold => cases hold.symm.trans hfound

/-- **A visit settles its label**, unless it fails, and leaves others as they are. -/
theorem solitary_visit (hmachine : app.machine label.machine = .ok machine)
    (hmember : .gate gate ∈ machine.states) :
    (visit app machine (.gate gate) label).Follows (solitary app client)
      (fun v after => Store.Stepped label scene.store after.store ∧
        (v.failed = false → Settled app after.store label machine gate)) scene := by
  refine Work.follows_bind.2 ((solitary_inTransaction (.operation (.drain label))
    fun commits => stepIn_ends (.inl rfl) hmachine hmember).mono
      fun result after hends => ?_)
  split
  · next source target =>
      obtain ⟨d, rfl, hdeed, hcommitted⟩ := hends
      have hmarks := (hdeed.at_gate hcommitted).resolve_right (by simp)
      refine Work.follows_bind.2 (solitary_drainMoved.mono fun failed last hlast => ?_)
      exact ⟨(hdeed.stepped hcommitted).trans hlast,
        fun _ => (hlast.marks hmarks).settled⟩
  · obtain ⟨d, rfl, hdeed, hcommitted⟩ := hends
    refine ⟨hdeed.stepped hcommitted, fun _ => ?_⟩
    rcases hdeed.at_gate hcommitted with hmarks | ⟨-, haway⟩
    · exact hmarks.settled
    · exact fun row hin => absurd hin.here haway
  · obtain ⟨hsame, d, -, hrow, hfailure⟩ := hends
    exact ⟨.of_unchanged hsame,
      fun _ => .of_failure hfailure ((hsame.row? label).trans hrow) (.inl rfl)⟩
  · obtain ⟨hsame, d, -, hrow, hfailure⟩ := hends
    exact ⟨.of_unchanged hsame,
      fun _ => .of_failure hfailure ((hsame.row? label).trans hrow) (.inr rfl)⟩
  · exact Work.follows_bind.2 (solitary_tellLog ⟨.of_unchanged hends.1, by simp⟩)

/-- **Visits settle their labels**: when none has failed and no end was asked for, a
label is settled if it was settled before or is of one of the names. -/
theorem solitary_visitAll {summary : BatchSummary} {names : List String}
    (hmachine : app.machine machine.name = .ok machine)
    (hmember : .gate gate ∈ machine.states) :
    (visitAll app machine (.gate gate) (Work.request .stopRequested)
      summary names).Follows
      (solitary app client)
      (fun final after => summary.failed ≤ final.failed ∧
        (final.failed = 0 → final.interrupted = false → ∀ label,
          Settled app scene.store label machine gate ∨
          (∃ name ∈ names, label = ⟨name, machine.name⟩) →
          Settled app after.store label machine gate)) scene := by
  induction names generalizing summary scene with
  | nil => exact ⟨Nat.le_refl _, fun _ _ label h => h.resolve_right (by simp)⟩
  | cons name rest ih =>
      rw [visitAll]
      refine Work.follows_bind.2 ⟨trivial, ?_⟩
      rintro stop ⟨w, store⟩ ⟨-, -, now, hsame⟩
      cases hsame
      cases stop with
      | true => exact ⟨Nat.le_refl _, by simp⟩
      | false =>
          refine Work.follows_bind.2 (Work.Follows.mono (solitary_visit hmachine hmember)
            fun v visited hvisited => ih.mono fun final after hrest => ?_)
          obtain ⟨hstepped, hsettles⟩ := hvisited
          obtain ⟨hmore, hall⟩ := hrest
          have hcount : (summary.count v).failed = summary.failed + v.failed.toNat := rfl
          refine ⟨by omega, fun hnone hfull label h => hall hnone hfull label ?_⟩
          have hpassed : v.failed = false := by
            cases hfailed : v.failed with
            | false => rfl
            | true => simp only [hfailed, Bool.toNat_true] at hcount; omega
          by_cases hlabel : label = ⟨name, machine.name⟩
          · exact .inl (hlabel ▸ hsettles hpassed)
          · refine h.imp (·.stepped hstepped hlabel) ?_
            rintro ⟨other, hin, rfl⟩
            refine ⟨other, (List.mem_cons.1 hin).resolve_left ?_, rfl⟩
            rintro rfl
            exact hlabel rfl

/-- **A retry settles its gate.**  A batch over the unmarked labels of a gate that has
no failures and was not interrupted leaves all labels settled. -/
theorem solitary_runBatch (happ : app.Built) {name : String}
    (hmachine : app.machine name = .ok machine)
    (hmember : .gate gate ∈ machine.states) (hopen : gate.route.isTerminal = false) :
    (runBatch app machine (.gate gate) .unprocessed (Work.request .stopRequested)).Follows
      (solitary app client)
      (fun result after => ∀ summary, result = .ok summary → summary.failed = 0 →
        summary.interrupted = false →
        ∀ label, Settled app after.store label machine gate) scene := by
  obtain ⟨-, rfl⟩ := happ.machine hmachine
  have hleft : (State.gate gate).isTerminal = false := hopen
  rw [runBatch, hleft]
  refine Attempt.follows_bind.2 (Attempt.follows_ofStore.2 ⟨trivial, ?_⟩)
  rintro answer ⟨w, store⟩ ⟨-, -, now, hserve⟩
  cases hserve
  refine Attempt.follows_ofWork.2 ((solitary_visitAll hmachine hmember).mono
    fun final after hend => ?_)
  obtain ⟨-, hall⟩ := hend
  rintro summary ⟨⟩ hnone hfull label
  refine hall hnone hfull label ?_
  by_cases hsettled : Settled app scene.store label machine gate
  · exact .inl hsettled
  · obtain ⟨row, hin, hunmarked⟩ : ∃ row, InGate app scene.store label row machine gate ∧
        row.triggersProcessed = false := by simpa [Settled] using hsettled
    have hlabel : row.label = label := by simpa using List.find?_some hin.stored
    refine .inr
      ⟨row.label.name, List.mem_map.2 ⟨row, hin.selected happ hunmarked, rfl⟩, ?_⟩
    rw [hlabel, (happ.machine hin.known).2]

/-! ## No trigger is lost -/

/-- Since a label with a marked row has entered its gate, all that has fired a trigger
of the gate was taken to it. -/
def TriggersTaken (app : App) (moments : List Moment) (s : System) : Prop :=
  ∀ label row machine gate, InGate app s.store label row machine gate →
    row.triggersProcessed = true →
    ∃ entry earlier entering since, moments = earlier ++ entering :: since ∧
      (s.store.history label).getLast? = some entry ∧ entering.Enters label entry ∧
      (∀ m ∈ since, m.after.store.history label = m.before.store.history label) ∧
      TakenToGate app label machine gate entry since

/-- For a label without a mark, in a gate that waits for updates and that labels can
leave, a retry of the gate is scheduled whose batch selects the label. -/
def RetriesScheduled (app : App) (s : System) : Prop :=
  ∀ label row machine gate, InGate app s.store label row machine gate →
    row.triggersProcessed = false → gate.route.isTerminal = false →
    gate.triggers.any Trigger.isOnUpdate = true →
    (∀ now, (retryOf machine gate, .every (.ofSeconds app.settings.metadataRetry)) ∈
      (Agenda.configure app now).jobs) ∧
    (∀ window stop, Agenda.runJob app (retryOf machine gate) window stop =
      runBatch app machine (.gate gate) .unprocessed stop) ∧
    row ∈ (s.store.rowsInState machine.name gate.name).filter Selection.unprocessed.admits

/-- When a retry of a gate that labels can leave has ended, without failures and not
interrupted, and nothing else has happened meanwhile, the rows of all labels in the gate
are marked. -/
def RetriesSettle (app : App) (moments : List Moment) (s : System) : Prop :=
  ∀ client window machine gate earlier start during summary,
    moments = earlier ++ start :: during →
    start.happening = .called client (.job (retryOf machine gate) window) →
    (∀ m ∈ during, ∃ exchange, m.happening = .said client exchange) →
    (s.tasks client).bind Task.rest = some (.done (.ok (.batch summary))) →
    summary.failed = 0 → summary.interrupted = false → gate.route.isTerminal = false →
    ∀ label row, InGate app s.store label row machine gate → row.triggersProcessed = true

variable {past : List Happening} {sys : System} {moments : List Moment}

/-- **No trigger is lost** on a label whose row is marked. -/
theorem Chronicle.triggersTaken (happ : app.Built)
    (chronicle : Chronicle app moments past sys) :
    TriggersTaken app moments sys := by
  intro label row machine gate hin hmarked
  obtain ⟨entry, hcurrent, hentered⟩ := Option.bind_eq_some_iff.1 hin.here
  obtain ⟨earlier, entering, since, hmoments, henters, hstays, htaken⟩ :=
    chronicle.watched happ label entry hcurrent
  exact ⟨entry, earlier, entering, since, hmoments, hcurrent, henters, hstays,
    htaken ⟨row, hin.stored, hmarked⟩ machine gate hin.known hin.member hentered⟩

/-- **Retries are scheduled** for the labels whose row is not. -/
theorem RetriesScheduled.of_built (happ : app.Built) : RetriesScheduled app sys := by
  intro label row machine gate hin hunmarked hopen hwaits
  exact ⟨retry_scheduled hin.known hin.member hopen hwaits,
    runJob_retryOf happ hin.known hin.member, hin.selected happ hunmarked⟩

/-- **Retries settle** the labels of their gate. -/
theorem Chronicle.retriesSettle (happ : app.Built)
    (chronicle : Chronicle app moments past sys) :
    RetriesSettle app moments sys := by
  rintro client window machine gate earlier start during summary rfl hstart hduring
    hdone hnone hfull
    hopen label row hin
  have halone : ((Call.job (retryOf machine gate) window).perform app).run.Follows
      (solitary app client)
      (fun result after => ∀ summary, result = .ok (.batch summary) →
        summary.failed = 0 → summary.interrupted = false →
        ∀ label, Settled app after.store label machine gate)
        ⟨⟨0, .idle⟩, start.before.store⟩ := by
    rw [Call.perform, runJob_retryOf happ hin.known hin.member]
    refine Attempt.follows_bind.2
      ((solitary_runBatch happ hin.known hin.member hopen).mono
        fun result after hafter => ?_)
    cases result with
    | error error => rintro _ ⟨⟩
    | ok summary =>
        rintro _ ⟨⟩
        exact hafter summary rfl
  obtain ⟨rest, v, htask, hgoal⟩ := chronicle.alone happ hstart hduring halone
  rw [htask] at hdone
  obtain rfl : rest = .done (.ok (.batch summary)) := Option.some.inj hdone
  exact hgoal summary rfl hnone hfull label row hin

/-- **No trigger is lost.**  In every run, however its calls are interleaved: when the
row of a label in a gate is marked, no update has fired a trigger of the gate since the
label has entered it, or a look at the gate was begun after the last that did and was
committed.  When it is not marked and labels can leave the gate, a retry is scheduled
that selects the label; and a retry that ends without failures, is not interrupted and
works alone leaves no row in the gate without its mark. -/
theorem Chronicle.triggers_kept (happ : app.Built)
    (chronicle : Chronicle app moments past sys) :
    TriggersTaken app moments sys ∧ RetriesScheduled app sys ∧
    RetriesSettle app moments sys :=
  ⟨chronicle.triggersTaken happ, .of_built happ, chronicle.retriesSettle happ⟩

/-- A gate that waits for the metadata to say that a label is ready. -/
def readyGate : Gate :=
  ⟨"open", ⟨"ready", [.lookup ["ready"]]⟩, [.onUpdate "ready"], .always "done"⟩

/-- A machine in which labels wait at that gate. -/
def waiting : Machine :=
  ⟨"waiting", [.gate readyGate, .action ⟨"done", "https://example.com", .stay⟩], [], []⟩

theorem waiting_built : waiting.Built := by
  have hreached : reachedNames waiting.states = ["done", "open"] := by
    change reachFrom waiting.states ["open"] [] = _
    rw [reachFrom_new rfl rfl]
    change reachFrom waiting.states ["done"] ["open"] = _
    rw [reachFrom_new rfl rfl]
    change reachFrom waiting.states [] _ = _
    rw [reachFrom]
  have hvalid : violations waiting.states waiting.feeds = [] := by
    rw [violations, unreachableStates, hreached]
    with_unfolding_all rfl
  exact ⟨⟨"waiting", [.gate "open" (some "ready") [.onUpdate "ready"] (.always "done"),
    .action "done" (some "https://example.com") .stay], [], []⟩,
    Blueprint.build_eq_ok (by with_unfolding_all rfl) rfl hvalid⟩

/-- An application of that machine alone. -/
def waitingRoom : App := .ofMachines [waiting] {} true

theorem waitingRoom_built : waitingRoom.Built :=
  ⟨[waiting], {}, true, [], rfl, fun _ hm => List.mem_singleton.1 hm ▸ waiting_built⟩

namespace WaitingRoom

def now : DateTime := ⟨0, ⟨0, 0⟩⟩

def visitor : Label := ⟨"a", "waiting"⟩

/-- An update that is of interest to the gate, and does not open it. -/
def patch : Value := .obj [("ready", .bool false)]

/-- A label is created and looked at. -/
def created : Story :=
  (Story.call {} waitingRoom (.worker 0) (.operation (.create visitor (.obj [])))).drive
    (agreeable now) (.worker 0) now 12

/-- Its metadata are updated, but nothing is done about it. -/
def unattended : Story :=
  (created.call waitingRoom (.worker 1) (.operation (.update visitor patch))).drive
    (agreeable now) (.worker 1) now 5

/-- A retry comes by. -/
def attended : Story :=
  (unattended.call waitingRoom (.worker 2)
    (.job (retryOf waiting readyGate) ⟨now, now⟩)).drive
    (agreeable now) (.worker 2) now 9

theorem chronicle_unattended :
    Chronicle waitingRoom unattended.moments unattended.past unattended.system := by
  have hcreated : Chronicle waitingRoom created.moments created.past created.system :=
    (Chronicle.opening (.worker 0) (.operation (.create visitor (.obj [])))).drive _ _ _ _
  have hnew : (created.system.tasks (.worker 1)).isNone = true := by decide +kernel
  exact (hcreated.call _ _ (Option.isNone_iff_eq_none.1 hnew)).drive _ _ _ _

theorem chronicle_attended :
    Chronicle waitingRoom attended.moments attended.past attended.system := by
  have hnew : (unattended.system.tasks (.worker 2)).isNone = true := by decide +kernel
  exact (chronicle_unattended.call _ _ (Option.isNone_iff_eq_none.1 hnew)).drive _ _ _ _

/-- The visitor waits with its metadata changed. -/
theorem inGate_unattended : InGate waitingRoom unattended.system.store visitor
    ⟨visitor, patch, false, false⟩ waiting readyGate where
  stored := by with_unfolding_all rfl
  live := rfl
  known := by with_unfolding_all rfl
  member := List.mem_cons_self
  here := by decide +kernel

/-- The visitor still waits, and its change has been looked at. -/
theorem inGate_attended : InGate waitingRoom attended.system.store visitor
    ⟨visitor, patch, false, true⟩ waiting readyGate where
  stored := by with_unfolding_all rfl
  live := rfl
  known := by with_unfolding_all rfl
  member := List.mem_cons_self
  here := by decide +kernel

/-- The batch has visited one label, and moved none. -/
theorem attended_done : (attended.system.tasks (.worker 2)).bind Task.rest =
    some (.done (.ok (.batch ⟨1, 0, 0, false⟩))) := by with_unfolding_all rfl

/-- The update fires the trigger of the gate when it is committed. -/
theorem fires : ∃ m ∈ unattended.moments, m.Fires visitor readyGate := by
  have hsome : unattended.moments.getLast?.isSome = true := by decide +kernel
  refine ⟨unattended.moments.getLast?.get hsome,
    List.mem_of_getLast? (Option.some_get hsome).symm, patch,
    ⟨visitor, .obj [], false, true⟩, ?_, ?_, ?_⟩
  all_goals with_unfolding_all rfl

end WaitingRoom

open WaitingRoom in
/-- An update that fires the trigger is not attended to; it stays unprocessed, so the
retry finds the label, takes it to its gate, and marks it. -/
theorem Chronicle.triggers_kept_waitingRoom : waitingRoom.Built ∧
    Chronicle waitingRoom unattended.moments unattended.past unattended.system ∧
    (∃ m ∈ unattended.moments, m.Fires visitor readyGate) ∧
    InGate waitingRoom unattended.system.store visitor ⟨visitor, patch, false, false⟩
      waiting readyGate ∧
    ⟨visitor, patch, false, false⟩ ∈
      (unattended.system.store.rowsInState "waiting" "open").filter
        Selection.unprocessed.admits ∧
    Chronicle waitingRoom attended.moments attended.past attended.system ∧
    ∃ row, InGate waitingRoom attended.system.store visitor row waiting readyGate ∧
      row.triggersProcessed = true ∧
      ∃ entry earlier entering since, attended.moments = earlier ++ entering :: since ∧
        entering.Enters visitor entry ∧
        TakenToGate waitingRoom visitor waiting readyGate entry since := by
  obtain ⟨-, hscheduled, -⟩ :=
    Chronicle.triggers_kept waitingRoom_built chronicle_unattended
  obtain ⟨htaken, -, hsettle⟩ :=
    Chronicle.triggers_kept waitingRoom_built chronicle_attended
  obtain ⟨-, -, hselected⟩ := hscheduled visitor _ _ _ inGate_unattended rfl rfl rfl
  obtain ⟨during, hmoments, hduring⟩ :=
    Story.drive_moments (agreeable now) (.worker 2) now 9
  have hmarked :=
    hsettle (.worker 2) ⟨now, now⟩ waiting readyGate unattended.moments _ during _
      (hmoments.trans (by rw [Story.call, Story.andThen, List.append_assoc]; rfl))
        rfl hduring
      attended_done rfl rfl rfl visitor _ inGate_attended
  obtain ⟨entry, earlier, entering, since, hsince, -, henters, -, hgate⟩ :=
    htaken visitor _ _ _ inGate_attended hmarked
  exact ⟨waitingRoom_built, chronicle_unattended, fires, inGate_unattended, hselected,
    chronicle_attended, _, inGate_attended, hmarked, entry, earlier, entering, since,
    hsince, henters, hgate⟩

end Turnstile
