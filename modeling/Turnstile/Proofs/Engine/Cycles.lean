import Turnstile.Proofs.Engine.Limits
import Turnstile.Proofs.History.Revisits
import Turnstile.Proofs.Store.Numbering

/-!
# Drains and cycles

A drain that its limit has ended suspects a cycle.  If nobody else has moved the label
meanwhile, the entries that it has added are one walk through the machine, and a walk of
as many steps as there are states visits one of them twice (`Walk.revisits`).  So in a
machine without cycles, whose states are not more than the limit, no drain is ended by
it (`drain_bounded`).
-/

set_option autoImplicit false

namespace Turnstile

variable {app : App} {m : Machine} {label : Label} {limit remaining : Nat}
  {client : Client}

/-! ## What was added meanwhile -/

/-- What a step that has moved a label adds to its history. -/
theorem Desk.Moved.added {d : Desk} (h : d.Moved app label) :
    ∃ entry source target, d.added =
      [entry] ∧ entry.toMove = .transition label source target := by
  obtain ⟨rfl, state, source, target, hdeed⟩ := h
  cases hdeed with
  | passed _ _ _ _ _ hadded =>
      obtain ⟨entry, hentry, hmove, -⟩ := hadded
      exact ⟨entry, _, _, hentry, hmove⟩
  | accepted _ _ _ _ _ hadded =>
      obtain ⟨entry, hentry, hmove, -⟩ := hadded
      exact ⟨entry, _, _, hentry, hmove⟩

/-- Steps that have moved a label have added as many moves that it earned. -/
theorem earned_of_moved {steps : List Desk} (h : ∀ d ∈ steps, d.Moved app label) :
    EarnedMoves label (steps.flatMap Desk.added) ∧
    (steps.flatMap Desk.added).length = steps.length := by
  induction steps with
  | nil => exact ⟨fun _ hnever => absurd hnever List.not_mem_nil, rfl⟩
  | cons d rest ih =>
      obtain ⟨hearned, hlength⟩ :=
        ih fun other hother => h other (List.mem_cons_of_mem _ hother)
      obtain ⟨entry, source, target, hadded, hmove⟩ := (h d List.mem_cons_self).added
      rw [List.flatMap_cons, hadded]
      refine ⟨?_, by simp [hlength]⟩
      intro other hother
      rcases List.mem_cons.1 hother with rfl | hlater
      · exact ⟨source, target, hmove⟩
      · exact hearned other hlater

variable {past : List Happening} {s : System} {earlier during : List Moment}
  {start : Moment} {summary : DrainSummary}

/-- Nobody but a client has changed the history of a label in these moments. -/
def LeftAlone (client : Client) (label : Label) (moments : List Moment) : Prop :=
  ∀ m ∈ moments, (∀ exchange, m.happening ≠ .said client exchange) →
    m.after.store.history label = m.before.store.history label

/-- The commits of a client have added to the history of a label all that was added. -/
theorem Chronicle.history_since
    (chronicle : Chronicle app (earlier ++ start :: during) past s)
    (halone : LeftAlone client label during) :
    ∃ parts : List (List Entry),
      List.Forall₂
        (fun m part => m.after.store.history label = m.before.store.history label ++ part)
        (commitsAt client during) parts ∧
      s.store.history label = start.after.store.history label ++ parts.flatten := by
  refine chronicle.onward
    (P := fun since _ sys => LeftAlone client label since → ∃ parts : List (List Entry),
      List.Forall₂
        (fun m part => m.after.store.history label = m.before.store.history label ++ part)
        (commitsAt client since) parts ∧
      sys.store.history label = start.after.store.history label ++ parts.flatten)
    (fun _ => ⟨[], .nil, by simp⟩) ?_ halone
  intro since past before happening after hbefore hstep hsince halone
  obtain ⟨parts, hparts, hhistory⟩ :=
    hsince fun m hm => halone m (List.mem_append_left _ hm)
  rw [commitsAt_append]
  cases hcommit : happening.isCommitOf client with
  | true =>
      have hgrows : before.store.ledger <+: after.store.ledger := by
        rcases hstep.served with hsame | ⟨_, _, hserved⟩
        · exact hsame ▸ List.prefix_rfl
        · exact hserved.ledger_prefix
      obtain ⟨more, hmore⟩ := hgrows
      have hpart : after.store.history label = before.store.history label ++
          entriesOf more label := by
        rw [Store.history, ← hmore, entriesOf_append]
        rfl
      refine ⟨parts ++ [entriesOf more label], ?_, ?_⟩
      · apply List.rel_append hparts
        simp only [commitsAt, hcommit, List.filter_cons, List.filter_nil, if_true]
        exact .cons hpart .nil
      · rw [hpart, hhistory]
        simp
  | false =>
      have hsame : after.store.history label = before.store.history label := by
        by_cases hsaid : ∃ exchange, happening = .said client exchange
        · obtain ⟨exchange, hsaid⟩ := hsaid
          have hunchanged := (Chronicle.step hbefore hstep).uncommitted
            (List.mem_append_right _ List.mem_cons_self)
            hsaid hcommit
          exact hunchanged.history label
        · exact halone ⟨past, before, happening, after⟩
            (List.mem_append_right _ List.mem_cons_self)
            fun exchange h => hsaid ⟨exchange, h⟩
      refine ⟨parts, ?_, by rw [hsame, hhistory]⟩
      simp only [commitsAt, hcommit, List.filter_cons, List.filter_nil,
        Bool.false_eq_true, if_false, List.append_nil]
      exact hparts

/-- What commits have added to the history of their label is what lay on their desks. -/
theorem parts_eq_added {moments : List Moment} {desks : List Desk}
    {parts : List (List Entry)}
    (h : List.Forall₂ (fun m d => m.before.store.Committed m.after.store d) moments desks)
    (hlabel : ∀ d ∈ desks, d.label = label)
    (hparts : List.Forall₂
      (fun m part => m.after.store.history label = m.before.store.history label ++ part)
      moments parts) : parts = desks.map Desk.added := by
  induction h generalizing parts with
  | nil =>
      cases hparts
      rfl
  | @cons m d moments desks hcommitted _ ih =>
      cases hparts with
      | @cons _ part _ parts hpart hmore =>
          have hd : d.label = label := hlabel d List.mem_cons_self
          have hafter : d.past ++ d.added = d.past ++ part := by
            rw [← hd] at hpart
            rw [← hcommitted.past, ← hpart, hcommitted.past]
            exact hcommitted.pastAfter.symm
          rw [List.map_cons,
            ih (fun other hother => hlabel other (List.mem_cons_of_mem _ hother)) hmore,
            List.append_cancel_left hafter]

/-! ## Drains of a run -/

/-- A client has drained a label, and nobody else has changed the history of the label
meanwhile. -/
structure DrainedAlone (app : App) (client : Client) (label : Label)
    (earlier : List Moment) (start : Moment) (during : List Moment)
    (past : List Happening) (s : System) (summary : DrainSummary) : Prop where
  chronicle : Chronicle app (earlier ++ start :: during) past s
  called : start.happening = .called client (.operation (.drain label))
  ended : s.tasks client =
    some ⟨.operation (.drain label), some (.done (.ok (.operation (.drained summary))))⟩
  alone : LeftAlone client label during

namespace DrainedAlone

/-- The journal of the drain agrees with what has happened. -/
theorem journal (happ : app.Built)
    (h : DrainedAlone app client label earlier start during past s summary)
    (hmachine : app.machine label.machine = .ok m) :
    ∃ j, Journal.Drained app label app.settings.maxTransitions app.settings.maxTransitions
      summary .opened j ∧
      Recorded (earlier ++ start :: during) client j := by
  have hjournal : (Call.perform app (.operation (.drain label))).Follows (journaling app)
      (fun result after => ∀ summary, result = .ok (.operation (.drained summary)) →
        Journal.Drained app label app.settings.maxTransitions app.settings.maxTransitions
          summary .opened after)
      .opened := by
    refine Attempt.follows_bind.2
      (Attempt.follows_bind.2 ((journal_drain hmachine .opened).mono ?_))
    intro result after hdrained
    cases result with
    | error error =>
        intro summary hsummary
        cases hsummary
    | ok made =>
        intro summary hsummary
        cases hsummary
        exact hdrained
  obtain ⟨j, hgoal, hrecorded⟩ := h.chronicle.journal happ h.ended hjournal
  exact ⟨j, hgoal summary rfl, hrecorded⟩

/-- A call begins with a client that is new, and leaves the store as it is. -/
theorem begins (h : DrainedAlone app client label earlier start during past s summary) :
    start.before.tasks client = none ∧ start.after.store = start.before.store := by
  obtain ⟨-, hstep, -⟩ := h.chronicle.upTo
  rw [h.called] at hstep
  generalize start.after = after at hstep ⊢
  cases hstep with
  | call _ _ hnew => exact ⟨hnew, rfl⟩

/-- The client has committed nothing before. -/
theorem commitsAt_during (happ : app.Built)
    (h : DrainedAlone app client label earlier start during past s summary) :
    commitsAt client (earlier ++ start :: during) = commitsAt client during := by
  obtain ⟨hbefore, -, -⟩ := h.chronicle.upTo
  obtain ⟨hnew, -⟩ := h.begins
  have hnone : commitsAt client earlier = [] := by
    rw [← List.length_eq_zero_iff, hbefore.length_commitsAt,
      ((hbefore.faithful happ).uncalled hnew).2]
  have hcall : commitsAt client [start] = [] := by
    simp [commitsAt, h.called, Happening.isCommitOf]
  have hsplit : earlier ++ start :: during = earlier ++ ([start] ++ during) := rfl
  rw [hsplit, commitsAt_append, commitsAt_append, hnone, hcall, List.nil_append,
    List.nil_append]

/-- **The drain has added what its result counts**: so many moves that the label has
earned. -/
theorem added (happ : app.Built)
    (h : DrainedAlone app client label earlier start during past s summary)
    (hmachine : app.machine label.machine = .ok m) :
    ∃ added, s.store.history label = start.before.store.history label ++ added ∧
      EarnedMoves label added ∧ added.length = summary.steps ∧
      (summary.capped = true → added.length = app.settings.maxTransitions) := by
  obtain ⟨j, ⟨steps, last, hkept, hsteps, hlast, hcount, hcapped⟩, hrecorded⟩ :=
    h.journal happ hmachine
  obtain ⟨parts, hparts, hhistory⟩ := h.chronicle.history_since h.alone
  have hdesks : j.kept = steps ++ last.toList := by simpa [Journal.opened] using hkept
  have hlabel : ∀ d ∈ j.kept, d.label = label := by
    intro d hd
    rw [hdesks] at hd
    rcases List.mem_append.1 hd with hstep | hstay
    · exact (hsteps d hstep).label
    · exact (hlast d (Option.mem_toList.1 hstay)).1
  have hcommits := hrecorded.kept
  rw [h.commitsAt_during happ] at hcommits
  have hnothing : last.toList.flatMap Desk.added = [] := by
    cases last with
    | none => rfl
    | some d => simp [(hlast d rfl).2]
  have hflatten : parts.flatten = steps.flatMap Desk.added := by
    rw [parts_eq_added hcommits hlabel hparts, hdesks, ← List.flatMap_def,
      List.flatMap_append, hnothing, List.append_nil]
  obtain ⟨hearned, hlength⟩ := earned_of_moved hsteps
  refine ⟨steps.flatMap Desk.added, ?_, hearned, ?_, ?_⟩
  · rw [hhistory, h.begins.2, hflatten]
  · omega
  · intro hfull
    rw [hlength, hcapped hfull]

/-- **The trail of a drain.**  What was added to the history of the label are the moves
that the result of the drain counts.  If the limit has ended the drain, and the machine
has no more states than the limit says, the label has visited a state twice, and the
machine has a cycle. -/
theorem trail (happ : app.Built)
    (h : DrainedAlone app client label earlier start during past s summary)
    (hmachine : app.machine label.machine = .ok m) :
    ∃ added, s.store.history label = start.before.store.history label ++ added ∧
      EarnedMoves label added ∧ added.length = summary.steps ∧
      (summary.capped = true → m.states.length ≤ app.settings.maxTransitions →
        ¬ (visited (start.before.store.history label) added).Nodup ∧ ¬ m.Acyclic) := by
  obtain ⟨added, hhistory, hearned, hlength, hfull⟩ := h.added happ hmachine
  refine ⟨added, hhistory, hearned, hlength, ?_⟩
  intro hcapped hlimit
  have hstates : 0 < m.states.length :=
    List.length_pos_of_ne_nil (happ.machine hmachine).1.states_ne_nil
  have hadded : added ≠ [] := by
    intro hnothing
    have hcount := hfull hcapped
    rw [hnothing, List.length_nil] at hcount
    omega
  have hlawful := (h.chronicle.faithful happ).lawful label
  rw [hhistory] at hlawful
  generalize hpast : start.before.store.history label ++ added = after at hlawful
  generalize s.store.row? label = row at hlawful
  cases hlawful with
  | unborn => exact absurd (List.append_eq_nil_iff.1 hpast).2 hadded
  | born hmachine' hlabel walk hdeleted =>
      rw [hmachine] at hmachine'
      cases hmachine'
      rw [← hpast] at walk
      obtain ⟨first, hstart⟩ := walk.before_earned hearned hadded
      have hlong : m.states.length ≤ added.length := by
        rw [hfull hcapped]
        exact hlimit
      have hagain := walk.revisits hstart hearned hlong
      exact ⟨hagain,
        fun hacyclic =>
          hagain (Machine.nodup_of_acyclic hacyclic (walk.path hstart hearned).chain)⟩

end DrainedAlone

/-- The conversation of a call that drains a label is that of the drain. -/
theorem leads_drain {talk : List Exchange} {summary : DrainSummary}
    (h : (Call.perform app (.operation (.drain label))).run.Leads talk
      (.done (.ok (.operation (.drained summary))))) :
    (drain app label).run.Leads talk (.done (.ok summary)) := by
  obtain ⟨performed, front, back, rfl, hfront, hback⟩ := Work.leads_bind_done h
  cases performed with
  | error error =>
      obtain ⟨-, hnever⟩ := Work.leads_done.1 hback
      cases hnever
  | ok performed =>
      obtain ⟨rfl, hsame⟩ := Work.leads_done.1 hback
      cases hsame
      obtain ⟨drained, front, back, rfl, hfront, hback⟩ := Work.leads_bind_done hfront
      cases drained with
      | error error =>
          obtain ⟨-, hnever⟩ := Work.leads_done.1 hback
          cases hnever
      | ok drained =>
          obtain ⟨rfl, hsame⟩ := Work.leads_done.1 hback
          cases hsame
          rw [List.append_nil, List.append_nil]
          exact hfront

/-- **Drains are bounded, and their warning is honest.**  Whatever the store and the
surroundings answer, a drain keeps within its limit.  In a run of a built application in
which nobody else changes the history of the label meanwhile, a drain that its limit has
ended, in a machine with no more states than the limit says, has visited a state twice;
so in a machine without cycles no drain is ended by it, and none is warned of. -/
theorem drain_bounded (app : App) (label : Label)
    (hmachine : app.machine label.machine = .ok m) :
    (∀ talk result, (drain app label).run.Leads talk (.done result) →
      WithinLimit app m label app.settings.maxTransitions talk result) ∧
    (app.Built → ∀ client earlier start during past s summary,
      DrainedAlone app client label earlier start during past s summary →
      ∃ added, s.store.history label = start.before.store.history label ++ added ∧
        EarnedMoves label added ∧ added.length = summary.steps ∧
        (m.states.length ≤ app.settings.maxTransitions →
          (summary.capped = true →
            ¬ (visited (start.before.store.history label) added).Nodup) ∧
          (m.Acyclic → summary.capped = false ∧
            warnings label app.settings.maxTransitions (exchangesOf client past) =
              0))) := by
  refine ⟨fun talk result hleads => drain_withinLimit hmachine hleads, ?_⟩
  intro happ client earlier start during past s summary h
  obtain ⟨added, hhistory, hearned, hlength, hfull⟩ := h.trail happ hmachine
  refine ⟨added, hhistory, hearned, hlength, ?_⟩
  intro hlimit
  refine ⟨fun hcapped => (hfull hcapped hlimit).1, ?_⟩
  intro hacyclic
  have huncapped : summary.capped = false := by
    refine Bool.eq_false_iff.2 ?_
    intro hcapped
    exact (hfull hcapped hlimit).2 hacyclic
  obtain ⟨left, hleads, hleft⟩ := h.chronicle.run.conversation h.ended
  obtain rfl := hleft _ rfl
  have hwithin := drain_withinLimit hmachine (leads_drain hleads)
  have hbelow : (grantsOf (exchangesOf client past)).granted.flatten.length ≠
      app.settings.maxTransitions := by
    intro hfull
    obtain ⟨other, hsummary, hcapped⟩ := hwithin.capped.2 hfull
    cases hsummary
    rw [huncapped] at hcapped
    cases hcapped
  exact ⟨huncapped, hwithin.warned.trans (if_neg hbelow)⟩

/-! ## A label that is led in a circle -/

/-- An application of the junction in which a label may make one step in one go. -/
def roundabout : App := .ofMachines [junction] { maxTransitions := 1 } true

theorem roundabout_built : roundabout.Built :=
  ⟨[junction], { maxTransitions := 1 }, true, [], rfl,
    fun _ hm => List.mem_singleton.1 hm ▸ junction_built⟩

namespace Roundabout

def now : Time.DateTime := ⟨0, ⟨0, 0⟩⟩

def driver : Label := ⟨"a", "junction"⟩

/-- A driver has arrived. -/
def arrived : Story :=
  (Story.call {} roundabout (.worker 0)
    (.operation (.create driver (.obj [("ready", .bool true)])))).drive
    (agreeable now) (.worker 0) now 5

/-- The driver goes round once. -/
def rounded : Story :=
  (arrived.call roundabout (.worker 1) (.operation (.drain driver))).drive (agreeable now)
  (.worker 1) now 20

/-- The drain takes its one step and is cut short. -/
theorem ended_rounded : rounded.system.tasks (.worker 1) =
    some ⟨.operation (.drain driver),
      some (.done (.ok (.operation (.drained ⟨1, true⟩))))⟩ := by
  with_unfolding_all rfl

theorem chronicle_rounded :
    Chronicle roundabout rounded.moments rounded.past rounded.system := by
  have harrived : Chronicle roundabout arrived.moments arrived.past arrived.system :=
    (Chronicle.opening (.worker 0)
      (.operation (.create driver (.obj [("ready", .bool true)])))).drive _ _ _ _
  have hnew : (arrived.system.tasks (.worker 1)).isNone = true := by
    with_unfolding_all rfl
  exact (harrived.call _ _ (Option.isNone_iff_eq_none.1 hnew)).drive _ _ _ _

/-- The moment at which the driver sets out. -/
def setsOut : Moment :=
  ⟨arrived.past, arrived.system, .called (.worker 1) (.operation (.drain driver)),
    (arrived.call roundabout (.worker 1) (.operation (.drain driver))).system⟩

/-- Nobody else moves meanwhile. -/
theorem alone :
    ∃ during, DrainedAlone roundabout (.worker 1) driver arrived.moments setsOut
      during rounded.past
    rounded.system ⟨1, true⟩ := by
  obtain ⟨during, hmoments, hsaid⟩ := @Story.drive_moments
    (arrived.call roundabout (.worker 1) (.operation (.drain driver))) (agreeable now)
    (.worker 1) now 20
  have hrounded : rounded.moments = arrived.moments ++ setsOut :: during := by
    rw [rounded, hmoments]
    simp [Story.call, Story.andThen, setsOut]
  refine ⟨during, hrounded ▸ chronicle_rounded, rfl, ended_rounded, ?_⟩
  intro m hm hothers
  obtain ⟨exchange, hexchange⟩ := hsaid m hm
  exact absurd hexchange (hothers exchange)

end Roundabout

open Roundabout in
/-- With a limit of one move the drain of a label that goes round is cut off, and it has
been at one of its states twice. -/
theorem drain_bounded_roundabout :
    roundabout.machine driver.machine = .ok junction ∧ roundabout.Built ∧
    WithinLimit roundabout junction driver 1 (exchangesOf (.worker 1) rounded.past)
      (.ok ⟨1, true⟩) ∧
    ∃ during added,
      DrainedAlone roundabout (.worker 1) driver arrived.moments setsOut during
        rounded.past rounded.system
        ⟨1, true⟩ ∧
      rounded.system.store.history driver = setsOut.before.store.history driver ++ added ∧
      added.length = 1 ∧
      ¬ (visited (setsOut.before.store.history driver) added).Nodup := by
  have hmachine : roundabout.machine driver.machine = .ok junction := rfl
  obtain ⟨hwithin, htrail⟩ := drain_bounded roundabout driver hmachine
  obtain ⟨left, hleads, hleft⟩ := chronicle_rounded.run.conversation ended_rounded
  obtain rfl := hleft _ rfl
  obtain ⟨during, halone⟩ := alone
  obtain ⟨added, hhistory, hearned, hlength, htwice⟩ :=
    htrail roundabout_built _ _ _ _ _ _ _ halone
  have hstates : junction.states.length ≤ roundabout.settings.maxTransitions := by decide
  exact ⟨hmachine, roundabout_built, hwithin _ _ (leads_drain hleads), during, added,
    halone, hhistory, hlength, (htwice hstates).1 rfl⟩

end Turnstile
