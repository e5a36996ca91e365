import Turnstile.Proofs.Agenda.Tiling
import Turnstile.Proofs.Engine.Failures
import Turnstile.Proofs.Engine.Retries
import Turnstile.Proofs.Time.Utc

/-!
# Schedules agree with triggers

A job that waits for a trigger is handed a window when its cadence has fired, and does
its work only if the trigger fires within that window.  The cadence computes an instant
ahead; the trigger looks back over the window.  `Cadence.daily_le_iff` and
`Cadence.every_lasts` say that they agree, and `Slot.Kept.fires` carries this over to
the slots of a schedule.

So a job of a configured schedule is never handed a window only to discard it, and no
daily occurrence is lost between windows or found twice (`configure_fires`).  Spans that
are measured from or to a leap second are an exception: the cadence counts the leap
second, and the trigger may not (`configure_skips_bakery`).
-/

set_option autoImplicit false

namespace Turnstile.Agenda

open Time (Clock Day DateTime Span Window)

/-! ## What is to be shown -/

/-- A trigger of universal time, daily or after a span, that does not meet a leap
second: neither is its time of day within one, nor are the instants from which a span is
measured. -/
def MeetsNoLeap (instants : List DateTime) : Trigger → Prop
  | .daily time => time.Valid ∧ time.nano < Time.nanosPerSecond
  | .every _ => ∀ t ∈ instants, t.clock.nano < Time.nanosPerSecond
  | _ => False

/-- A job that is handed out does its work: its trigger fires within the window, and its
batch is run. -/
structure DueJob.Fires (app : App) (due : DueJob Job) (trigger : Trigger) : Prop where
  isDue : trigger.isDue app.zones due.window = true
  runs : ∃ m state, app.machine due.job.machine = .ok m ∧
    m.stateNamed due.job.state = .ok state ∧
    ∀ stop, runJob app due.job due.window stop = runBatch app m state .all stop

/-! ## Cadences -/

variable {since now next : DateTime} {time : Clock} {period : Span}

/-- A daily cadence has fired by an instant exactly if its time of day occurs in the
window up to it. -/
theorem Cadence.daily_le_iff (hsince : since.Representable) (hnow : now.Representable)
    (htime : time.Valid) (hleap : time.nano < Time.nanosPerSecond) :
    (∃ next, (Cadence.daily time).next? since = some next ∧ next ≤ now) ↔
      ∃ day : Day, (Window.mk since now).contains ⟨day, time⟩ = true := by
  have htomorrow : (⟨since.day, time⟩ : DateTime).add? dayLength =
      if Day.inCalendar (since.day + 1) then some ⟨since.day + 1, time⟩ else none :=
    DateTime.add?_day htime hleap
  constructor
  · rintro ⟨next, hnext, hle⟩
    have hlt : since < next :=
      @Cadence.lt_next (.daily time) trivial _ _ hsince.clock hnext
    have htimed : ∃ day : Day, next = ⟨day, time⟩ := by
      simp only [Cadence.next?, htomorrow] at hnext
      split at hnext
      · exact ⟨_, (Option.some.inj hnext).symm⟩
      · rw [Option.ite_none_right_eq_some] at hnext
        exact ⟨_, (Option.some.inj hnext.2).symm⟩
    obtain ⟨day, rfl⟩ := htimed
    exact ⟨day, Window.contains_iff.2 ⟨hlt, hle⟩⟩
  · rintro ⟨day, hcontains⟩
    obtain ⟨hfirst, hlast⟩ := Window.contains_iff.1 hcontains
    have hday : since.day ≤ day :=
      DateTime.day_le_of_le hsince.clock htime (DateTime.le_of_lt hfirst)
    simp only [Cadence.next?, htomorrow]
    by_cases htoday : since < ⟨since.day, time⟩
    · exact ⟨_, if_pos htoday, Int.le_trans (DateTime.le_of_day_le hday) hlast⟩
    · have hlater : since.day + 1 ≤ day := by
        refine Int.lt_iff_le_and_ne.2 ⟨hday, fun hsame => htoday ?_⟩
        rw [hsame]
        exact hfirst
      have hend : day ≤ now.day := DateTime.day_le_of_le htime hnow.clock hlast
      have hcalendar : Day.inCalendar (since.day + 1) = true := by
        have hstart := hsince.day
        have hstop := hnow.day
        rw [Day.inCalendar, Bool.and_eq_true, decide_eq_true_eq,
          decide_eq_true_eq] at hstart hstop ⊢
        unfold Day at *
        omega
      exact ⟨⟨since.day + 1, time⟩, by rw [if_neg htoday, if_pos hcalendar],
        Int.le_trans (DateTime.le_of_day_le hlater) hlast⟩

/-- Outside leap seconds a window lasts for the period of a cadence that has fired by
its end. -/
theorem Cadence.every_lasts (hsince : since.clock.nano < Time.nanosPerSecond)
    (hnow : now.clock.nano < Time.nanosPerSecond)
    (hnext : (Cadence.every period).next? since = some next)
    (hle : next ≤ now) : (Window.mk since now).lasts period = true := by
  obtain ⟨delta, hdelta, hadd⟩ := Option.bind_eq_some_iff.1 hnext
  simp only [Span.delta?, Option.ite_none_right_eq_some, Option.some.injEq] at hdelta
  obtain ⟨-, rfl⟩ := hdelta
  obtain ⟨hmoved, hleap⟩ := DateTime.nanos_of_add? hsince hadd
  rw [DateTime.le_iff_nanos hleap hnow, hmoved] at hle
  simp only [Window.lasts, DateTime.since_eq_nanos hnow hsince, Bool.and_eq_true,
    decide_eq_true_eq]
  omega

/-! ## Slots -/

variable {ι : Type} {slot : Slot ι} {trigger : Trigger} {settings : Settings}

/-- **Cadences agree with triggers.**  A slot with the cadence of a trigger is due only
when the trigger fires within its window. -/
theorem Slot.Kept.fires (h : slot.Kept)
    (hcadence : triggerCadence? settings trigger = some slot.cadence)
    (hlast : slot.lastRun.Representable) (hnow : now.Representable)
    (hleap : MeetsNoLeap [slot.lastRun, now] trigger) (hdue : slot.isDue now = true)
    (zones : List Time.Zone) : trigger.isDue zones (slot.dueJob now).window = true := by
  obtain ⟨next, hnext, hle⟩ := Slot.isDue_iff.1 hdue
  rw [h.due] at hnext
  cases trigger with
  | daily time =>
      rw [← Option.some.inj hcadence] at hnext
      exact (Window.hasTime_utc hlast hnow hleap.1).2
        ((Cadence.daily_le_iff hlast hnow hleap.1 hleap.2).1 ⟨next, hnext, hle⟩)
  | every interval =>
      rw [← Option.some.inj hcadence] at hnext
      exact Cadence.every_lasts (hleap _ (by simp)) (hleap _ (by simp)) hnext hle
  | _ => exact hleap.elim

section Daily

variable {day : Day} {polls : List DateTime}

/-- The uses of a schedule that is only polled. -/
abbrev pollsAt (polls : List DateTime) : List (Use ι) := polls.map .poll

/-- What is past when a slot was last run is in no window that it is still to get. -/
theorem Slot.Kept.count_past (h : slot.Kept) (hcadence : slot.cadence = .daily time)
    (hpolls : ∀ now ∈ polls, now.Representable) {t : DateTime}
    (hpast : t ≤ slot.lastRun) :
    (slot.windows (pollsAt polls)).countP (·.contains t) = 0 := by
  induction polls generalizing slot with
  | nil => rfl
  | cons now rest ih =>
      obtain ⟨hnow, hrest⟩ := List.forall_mem_cons.1 hpolls
      simp only [pollsAt, List.map_cons, Slot.windows]
      split
      next hdue =>
        have hforward : slot.lastRun < now := h.lt_of_isDue (hcadence ▸ trivial) hdue
        have hbefore : (slot.dueJob now).window.contains t = false := by
          refine Bool.eq_false_iff.2 fun hcontains => ?_
          exact absurd (Window.contains_iff.1 hcontains).1 (Int.not_lt.2 hpast)
        rw [List.countP_cons_of_neg (by simp [hbefore])]
        exact ih (Slot.kept_start _ _ hnow.clock) hcadence hrest
          (Int.le_trans hpast (DateTime.le_of_lt hforward))
      next => exact ih h hcadence hrest hpast

/-- **Every occurrence is in one window.**  What a daily slot is handed holds every
occurrence of its time after its last run and up to a poll once. -/
theorem Slot.Kept.count_daily (h : slot.Kept) (hcadence : slot.cadence = .daily time)
    (hlast : slot.lastRun.Representable) (hpolls : ∀ now ∈ polls, now.Representable)
    (htime : time.Valid) (hleap : time.nano < Time.nanosPerSecond)
    (hlate : slot.lastRun < ⟨day, time⟩) (hnow : now ∈ polls)
    (hle : (⟨day, time⟩ : DateTime) ≤ now) :
    (slot.windows (pollsAt polls)).countP (·.contains ⟨day, time⟩) = 1 := by
  induction polls generalizing slot with
  | nil => cases hnow
  | cons first rest ih =>
      obtain ⟨hfirst, hrest⟩ := List.forall_mem_cons.1 hpolls
      have hfired : slot.isDue first = true ↔
          ∃ day : Day, (slot.dueJob first).window.contains ⟨day, time⟩ = true := by
        rw [Slot.isDue_iff, h.due, hcadence]
        exact Cadence.daily_le_iff hlast hfirst htime hleap
      have hcontains : (slot.dueJob first).window.contains ⟨day, time⟩ = true ↔
          (⟨day, time⟩ : DateTime) ≤ first := by
        rw [Window.contains_iff]
        exact and_iff_right hlate
      -- the poll that is asked for is a later one unless the occurrence is up to this one
      have hlater : ¬ (⟨day, time⟩ : DateTime) ≤ first → now ∈ rest := fun hnot =>
        (List.mem_cons.1 hnow).resolve_left fun hsame => hnot (hsame ▸ hle)
      simp only [pollsAt, List.map_cons, Slot.windows]
      split
      next hdue =>
        by_cases hup : (⟨day, time⟩ : DateTime) ≤ first
        · rw [List.countP_cons_of_pos (p := fun w : Window => w.contains ⟨day, time⟩)
            (hcontains.2 hup)]
          exact congrArg (· + 1)
            ((Slot.kept_start _ _ hfirst.clock).count_past hcadence hrest hup)
        · rw [List.countP_cons_of_neg (p := fun w : Window => w.contains ⟨day, time⟩)
            (mt hcontains.1 hup)]
          exact ih (Slot.kept_start _ _ hfirst.clock) hcadence hfirst hrest
            (Int.not_le.1 hup) (hlater hup)
      next hdue =>
        exact ih h hcadence hlast hrest hlate
          (hlater fun hup => hdue (hfired.2 ⟨day, hcontains.2 hup⟩))

end Daily

/-! ## Configured schedules -/

variable {app : App} {job : Job} {cadence : Cadence} {start : DateTime}
  {polls : List DateTime}

/-- The jobs of a configured schedule are those of the application, in their order. -/
theorem jobs_configure (app : App) (now : DateTime) :
    (configure app now).jobs = applicationJobs app := by
  rw [configure, jobs_foldl_add]
  rfl

/-- The slots of a configured schedule start when it is configured. -/
theorem slots_configure (app : App) (now : DateTime) :
    (configure app now).slots =
      (applicationJobs app).map fun entry => .start entry.1 entry.2 now := by
  have hadded : ∀ (entries : List (Job × Cadence)) (s : Schedule Job),
      (entries.foldl (fun s entry => s.add entry.1 entry.2 now) s).slots =
        s.slots ++ entries.map fun entry => .start entry.1 entry.2 now := by
    intro entries
    induction entries with
    | nil => simp
    | cons entry rest ih =>
        intro s
        rw [List.foldl_cons, ih]
        simp [Schedule.add]
  exact hadded _ _

/-- A job that waits for a trigger has its cadence. -/
theorem cadence_of_applicationJobs (h : (job, cadence) ∈ applicationJobs app)
    (hkind : job.kind = .trigger trigger) :
    triggerCadence? app.settings trigger = some cadence := by
  obtain ⟨⟨name, m⟩, -, hstates⟩ := List.mem_flatMap.1 h
  obtain ⟨state, -, hjob⟩ := List.mem_flatMap.1 hstates
  exact (mem_stateJobs hjob).2.2 trigger hkind

/-- What is known of a slot while a configured schedule is polled. -/
structure Slot.Configured (app : App) (instants : List DateTime)
    (slot : Slot Job) : Prop where
  listed : (slot.job, slot.cadence) ∈ applicationJobs app
  due : slot.nextDue = slot.cadence.next? slot.lastRun
  run : slot.lastRun ∈ instants

/-- A poll keeps what is known of a slot. -/
theorem Slot.Configured.advance {slot : Slot Job} {instants : List DateTime}
    (h : slot.Configured app instants) {now : DateTime} (hnow : now ∈ instants) :
    (slot.advance now).Configured app instants := by
  unfold Slot.advance
  split
  · exact ⟨h.listed, rfl, hnow⟩
  · exact h

/-- The slots of a configured schedule stay so through polls. -/
theorem configured_after {s : Schedule Job} {instants : List DateTime}
    (h : ∀ slot ∈ s.slots, slot.Configured app instants)
    (hpolls : ∀ now ∈ polls, now ∈ instants) :
    ∀ slot ∈ (s.after (pollsAt polls)).slots, slot.Configured app instants := by
  induction polls generalizing s with
  | nil => exact h
  | cons now rest ih =>
      obtain ⟨hnow, hrest⟩ := List.forall_mem_cons.1 hpolls
      refine ih (s := s.use (.poll now)) (fun slot hslot => ?_) hrest
      obtain ⟨old, hold, rfl⟩ := List.mem_map.1 hslot
      exact (h old hold).advance hnow

/-- A configured job whose trigger fires runs its batch, unless its zones are read from
the labels. -/
theorem runJob_of_isDue (happ : app.Built) (h : (job, cadence) ∈ applicationJobs app)
    (hkind : job.kind = .trigger trigger)
    (hshared : ∀ time path, trigger ≠ .dailyPerLabel time path)
    {window : Window} (hdue : trigger.isDue app.zones window = true) :
    ∃ m state, app.machine job.machine = .ok m ∧ m.stateNamed job.state = .ok state ∧
      ∀ stop, runJob app job window stop = runBatch app m state .all stop := by
  obtain ⟨m, state, hmachine, hstate⟩ := state_of_applicationJobs happ h
  refine ⟨m, state, hmachine, hstate, fun stop => ?_⟩
  unfold runJob
  rw [hmachine, Attempt.ofExcept_ok_bind, hstate, Attempt.ofExcept_ok_bind, hkind]
  cases trigger with
  | dailyPerLabel time path => exact absurd rfl (hshared time path)
  | _ => simp only [hdue, if_true]

/-- **A job that is handed out fires.** -/
theorem Slot.Configured.fires (happ : app.Built) {slot : Slot Job}
    {instants : List DateTime} {now : DateTime}
    (h : slot.Configured app instants) (hinstants : ∀ t ∈ instants, t.Representable)
    (hnow : now ∈ instants) (hdue : slot.isDue now = true)
    (hkind : slot.job.kind = .trigger trigger)
    (hleap : MeetsNoLeap instants trigger) : (slot.dueJob now).Fires app trigger := by
  have hleap' : MeetsNoLeap [slot.lastRun, now] trigger := by
    cases trigger with
    | daily time => exact hleap
    | every interval =>
        exact List.forall_mem_cons.2 ⟨hleap _ h.run, by simpa using hleap _ hnow⟩
    | _ => exact hleap
  have hlast := hinstants _ h.run
  have hfires := Slot.Kept.fires ⟨h.due, hlast.clock⟩
    (cadence_of_applicationJobs h.listed hkind) hlast
    (hinstants _ hnow) hleap' hdue app.zones
  refine ⟨hfires, runJob_of_isDue happ h.listed hkind ?_ hfires⟩
  rintro time path rfl
  exact hleap

/-- **A daily job of a configured schedule** is handed each occurrence of its time
once. -/
theorem count_configured {place : Nat} {day : Day} {now : DateTime}
    (hstart : start.Representable) (hpolls : ∀ t ∈ polls, t.Representable)
    (hplace : (configure app start).jobs[place]? = some (job, cadence))
    (hkind : job.kind = .trigger (.daily time)) (htime : time.Valid)
    (hleap : time.nano < Time.nanosPerSecond) (hnow : now ∈ polls)
    (hlate : start < ⟨day, time⟩) (hle : (⟨day, time⟩ : DateTime) ≤ now) :
    ((configure app start).windows place (polls.map .poll)).countP
      (·.contains ⟨day, time⟩) = 1 := by
  rw [jobs_configure] at hplace
  have hlisted := List.mem_of_getElem? hplace
  obtain rfl := Option.some.inj (cadence_of_applicationJobs hlisted hkind)
  have hslot :
      (configure app start).slots[place]? = some (.start job (.daily time) start) := by
    rw [slots_configure, List.getElem?_map, hplace]
    rfl
  rw [Schedule.windows_eq hslot]
  exact (Slot.kept_start job (.daily time) hstart.clock).count_daily rfl hstart hpolls
    htime hleap hlate hnow
    hle

/-- **Schedules agree with triggers.**  A schedule is configured and then polled, in any
order of instants.

* A job that waits for a daily time in UTC, or for a span of time, is handed only
  windows within which its trigger fires, and so runs its batch, as far as no leap
  second is met.
* A daily occurrence after the start and up to a poll lies in exactly one window of its
  job. -/
theorem configure_fires (happ : app.Built)
    (hinstants : ∀ t ∈ start :: polls, t.Representable) :
    (∀ before now later, polls = before ++ now :: later →
      ∀ due ∈ (((configure app start).after (before.map .poll)).due now).1, ∀ trigger,
        due.job.kind = .trigger trigger → MeetsNoLeap (start :: polls) trigger →
        due.Fires app trigger) ∧
    (∀ place job cadence time, (configure app start).jobs[place]? = some (job, cadence) →
      job.kind = .trigger (.daily time) → time.Valid → time.nano < Time.nanosPerSecond →
      ∀ now ∈ polls, ∀ day : Day, start < ⟨day, time⟩ → (⟨day, time⟩ : DateTime) ≤ now →
        ((configure app start).windows place (polls.map .poll)).countP
          (·.contains ⟨day, time⟩) = 1) := by
  obtain ⟨hstart, hpolls⟩ := List.forall_mem_cons.1 hinstants
  constructor
  · rintro before now later rfl due hdue trigger hkind hleap
    have hslots : ∀ slot ∈ (configure app start).slots,
        slot.Configured app (start :: (before ++ now :: later)) := by
      intro slot hslot
      rw [slots_configure] at hslot
      obtain ⟨entry, hentry, rfl⟩ := List.mem_map.1 hslot
      exact ⟨hentry, rfl, List.mem_cons_self⟩
    have hbefore : ∀ t ∈ before, t ∈ start :: (before ++ now :: later) := fun t ht =>
      List.mem_cons_of_mem _ (List.mem_append_left _ ht)
    obtain ⟨slot, hslot, rfl⟩ := List.mem_map.1 hdue
    obtain ⟨hslot, hisDue⟩ := List.mem_filter.1 hslot
    exact (configured_after hslots hbefore slot hslot).fires happ hinstants (by simp)
      hisDue hkind hleap
  · intro place job cadence time hplace hkind htime hleap now hnow day hlate hle
    exact count_configured hstart hpolls hplace hkind htime hleap hnow hlate hle

/-! ## A bakery -/

/-- Loaves are looked at every ten seconds and at noon, and are taken out when they are
done. -/
def baking : Machine :=
  ⟨"baking", [.gate ⟨"oven", ⟨"done", [.lookup ["done"]]⟩,
    [.every (.ofSeconds 10), .daily ⟨43200, 0⟩], .always "table"⟩,
    .action ⟨"table", "https://example.com", .stay⟩], [], []⟩

/-- Both states are reached, and the machine passes validation. -/
theorem baking_built : baking.Built := by
  have hreached : reachedNames baking.states = ["table", "oven"] := by
    change reachFrom baking.states ["oven"] [] = _
    rw [reachFrom_new rfl rfl]
    change reachFrom baking.states ["table"] ["oven"] = _
    rw [reachFrom_new rfl rfl]
    change reachFrom baking.states [] _ = _
    rw [reachFrom]
  have hvalid : violations baking.states baking.feeds = [] := by
    rw [violations, unreachableStates, hreached]
    with_unfolding_all rfl
  exact ⟨⟨"baking",
    [.gate "oven" (some "done") [.every (.ofSeconds 10), .daily ⟨43200, 0⟩]
      (.always "table"),
      .action "table" (some "https://example.com") .stay], [], []⟩,
      Blueprint.build_eq_ok (by with_unfolding_all rfl) rfl hvalid⟩

/-- An application of that machine alone. -/
def bakery : App := .ofMachines [baking] {} true

theorem bakery_built : bakery.Built :=
  ⟨[baking], {}, true, [], rfl, fun _ hm => List.mem_singleton.1 hm ▸ baking_built⟩

namespace Bakery

/-- Instants of the night to 2017, in seconds and milliseconds from a minute before
midnight. -/
def night (seconds : Nat) (millis : Nat) : DateTime :=
  ⟨17166, ⟨86340 + seconds, millis * 1000000⟩⟩

/-- Instants of the day after. -/
def nextDay (seconds : Nat) (millis : Nat) : DateTime :=
  ⟨17167, ⟨seconds, millis * 1000000⟩⟩

/-- The job that looks at the oven every ten seconds. -/
def glance : Job := ⟨"baking", "oven", .trigger (.every (.ofSeconds 10))⟩

/-- Polls that come on time, early by a clock that has stepped back, and late. -/
def checks : List DateTime := [nextDay 9 300, night 50 0, nextDay 43210 0]

end Bakery

open Bakery in
/-- At the first poll the job is handed the window in which its span was over; and of
three polls, the second of them early, one window holds noon. -/
theorem configure_fires_bakery :
    bakery.Built ∧ (∀ t ∈ night 59 300 :: checks, t.Representable) ∧
    DueJob.Fires bakery ⟨glance, ⟨night 59 300, nextDay 9 300⟩⟩ (.every (.ofSeconds 10)) ∧
    night 59 300 < ⟨17167, ⟨43200, 0⟩⟩ ∧
    (⟨17167, ⟨43200, 0⟩⟩ : DateTime) ≤ nextDay 43210 0 ∧
    ((configure bakery (night 59 300)).windows 1 (checks.map .poll)).countP
      (·.contains ⟨17167, ⟨43200, 0⟩⟩) = 1 := by
  have hinstants : ∀ t ∈ night 59 300 :: checks, t.Representable := by
    have hall : ∀ t ∈ night 59 300 :: checks, (t.clock.second < Clock.secondsPerDay ∧
        t.clock.nano < 2 * Time.nanosPerSecond) ∧
        Day.inCalendar t.day = true := by decide +kernel
    exact fun t ht => ⟨(hall t ht).1, (hall t ht).2⟩
  obtain ⟨hhanded, honce⟩ := configure_fires bakery_built hinstants
  have hdue :
      (((configure bakery (night 59 300)).after (([] : List DateTime).map .poll)).due
        (nextDay 9 300)).1 = [⟨glance, ⟨night 59 300, nextDay 9 300⟩⟩] := by
    with_unfolding_all rfl
  have hleap : MeetsNoLeap (night 59 300 :: checks) (.every (.ofSeconds 10)) := by
    change ∀ t ∈ night 59 300 :: checks, t.clock.nano < Time.nanosPerSecond
    decide
  have hjob : (configure bakery (night 59 300)).jobs[1]? =
      some (⟨"baking", "oven", .trigger (.daily ⟨43200, 0⟩)⟩, .daily ⟨43200, 0⟩) := by
    with_unfolding_all rfl
  exact ⟨bakery_built, hinstants,
    hhanded [] _ _ rfl _ (hdue ▸ List.mem_singleton_self _) _ rfl hleap, by
      decide, by decide,
    honce 1 _ _ _ hjob rfl ⟨by decide, by decide⟩ (by decide) (nextDay 43210 0)
      (by simp [checks]) 17167
      (by decide) (by decide)⟩

open Bakery in
/-- **A skipped interval.**  From within the leap second at the end of 2016 a span of
ten seconds is over at a poll after midnight: the job is handed its window.  But as the
window is measured it lasts for nine seconds, and nothing is looked at. -/
theorem configure_skips_bakery : bakery.Built ∧
    (∀ t ∈ [night 59 1300, nextDay 9 300], t.Representable) ∧
    (night 59 1300).add? 10000000000 = some (nextDay 9 300) ∧
    ((configure bakery (night 59 1300)).due (nextDay 9 300)).1 =
      [⟨glance, ⟨night 59 1300, nextDay 9 300⟩⟩] ∧
    (Trigger.every (.ofSeconds 10)).isDue bakery.zones ⟨night 59 1300, nextDay 9 300⟩ =
      false ∧
    ∀ stop, runJob bakery glance ⟨night 59 1300, nextDay 9 300⟩ stop = pure {} := by
  have hinstants :
    ∀ t ∈ [night 59 1300, nextDay 9 300], (t.clock.second < Clock.secondsPerDay ∧
      t.clock.nano < 2 * Time.nanosPerSecond) ∧
      Day.inCalendar t.day = true := by decide +kernel
  refine ⟨bakery_built, fun t ht => ⟨(hinstants t ht).1, (hinstants t ht).2⟩,
    by decide +kernel, ?_, by decide, fun stop => ?_⟩
  all_goals with_unfolding_all rfl

end Turnstile.Agenda
