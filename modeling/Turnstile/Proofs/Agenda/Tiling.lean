import Turnstile.Agenda.Schedule
import Turnstile.Proofs.Time.DateTime

/-!
# Schedules tile time

A schedule is used by adding jobs and by polling, in any order and at any instants: the
clock may step back between two polls.  A slot is known by its place in the order of the
additions, because two slots may hold equal jobs.

* `Schedule.handed` is what a poll hands out with the places.
* `Slot.Kept` is the invariant of a slot: it is due when its cadence first fires after
  its last run.
* `Slot.windows` follows one slot through later uses; `Schedule.windows_eq` and
  `Schedule.windows_added` read the windows of a place off the slot that stands there.
* `Schedule.tiles` says of every use of a schedule what a poll hands out, and that the
  windows of a place lie end to end from the instant at which its job was added.
-/

set_option autoImplicit false

namespace Turnstile.Agenda

open Time (Clock DateTime Span Window)

/-! ## What is to be shown -/

/-- A job with the cadence and the instant at which it was added. -/
structure Addition (ι : Type) where
  job : ι
  cadence : Cadence
  now : DateTime

/-- One use of a schedule. -/
inductive Use (ι : Type) where
  | add (addition : Addition ι)
  | poll (now : DateTime)

variable {ι : Type}

/-- The instant at which a schedule is used. -/
def Use.now : Use ι → DateTime
  | .add addition => addition.now
  | .poll now => now

/-- The jobs that are added, in order. -/
def additions (uses : List (Use ι)) : List (Addition ι) :=
  uses.filterMap fun
    | .add addition => some addition
    | .poll _ => none

namespace Schedule

/-- The schedule after one use. -/
def use (s : Schedule ι) : Use ι → Schedule ι
  | .add ⟨job, cadence, now⟩ => s.add job cadence now
  | .poll now => (s.due now).2

/-- The schedule after several uses. -/
def after (s : Schedule ι) (uses : List (Use ι)) : Schedule ι := uses.foldl use s

/-- What a poll hands out, each job with the place of its slot. -/
def handed (s : Schedule ι) (now : DateTime) : List (Nat × DueJob ι) :=
  (s.slots.zipIdx.filter fun p => p.1.isDue now).map fun p => (p.2, p.1.dueJob now)

/-- The windows that are handed out for a place in the course of several uses. -/
def windows (place : Nat) (s : Schedule ι) : List (Use ι) → List Window
  | [] => []
  | .add addition :: rest => (s.use (.add addition)).windows place rest
  | .poll now :: rest =>
    ((s.handed now).filter fun p => p.1 == place).map (·.2.window) ++
      (s.use (.poll now)).windows place rest

end Schedule

/-- Whether a cadence lets time pass between two runs. -/
def Cadence.Positive : Cadence → Prop
  | .every period => 0 < period.total
  | .daily _ => True

/-- Windows that lie end to end, the first from `start` on. -/
def Tiles : DateTime → List Window → Prop
  | _, [] => True
  | start, window :: rest => window.since = start ∧ Tiles window.now rest

/-- The windows of an added job lie end to end from its addition, and none is empty if
its cadence lets time pass. -/
structure Addition.Tiled (addition : Addition ι) (windows : List Window) : Prop where
  chain : Tiles addition.now windows
  nonempty : addition.cadence.Positive → ∀ window ∈ windows, window.since < window.now

/-- What a poll does after some jobs were added: it hands out slots in the order of
their addition, each at most once, and none exactly if no slot is due yet. -/
structure Schedule.Polled (s : Schedule ι) (added : List (Addition ι))
    (now : DateTime) : Prop where
  handed : (s.due now).1 = (s.handed now).map (·.2)
  ordered : ((s.handed now).map (·.1)).Pairwise (· < ·)
  known : ∀ place due, (place, due) ∈ s.handed now →
    due.window.now = now ∧
    ∃ addition, added[place]? = some addition ∧ addition.job = due.job
  idle : (s.due now).1 = [] ↔ ∀ next, s.nextDue? = some next → now < next

/-! ### The next instant is a later one -/

/-- A day leads to a later day, also for a time within a leap second. -/
theorem one_le_advance_dayLength (c : Clock) : 1 ≤ (c.advance dayLength).2 := by
  have hwhole : dayLength.tdiv 1000000000 = 86400 := by decide
  have hpart : dayLength.tmod 1000000000 = 0 := by decide
  simp only [Clock.advance, Clock.isLeap, hwhole, hpart, Clock.secondsPerDay,
    Time.nanosPerSecond,
    Int.fdiv_eq_ediv_of_nonneg _ (show (0 : Int) ≤ 1000000000 by decide)]
  split
  next hleap =>
    have hlate := of_decide_eq_true hleap
    simp only [show (86400 : Int) > 0 by decide, true_or, if_true]
    rw [Int.fdiv_eq_ediv_of_nonneg _ (by decide)]
    omega
  next =>
    simp only
    rw [Int.fdiv_eq_ediv_of_nonneg _ (by decide)]
    omega

/-- A time on a later day is a later time. -/
theorem lt_of_day_lt {day later : Int} {c d : Clock} (hc : c.Valid) (h : day < later) :
    (⟨day, c⟩ : DateTime) < ⟨later, d⟩ := by
  obtain ⟨hsecond, hnano⟩ := hc
  refine DateTime.lt_of_seconds_lt hnano (.inl ?_)
  simp only [DateTime.seconds, Clock.secondsPerDay] at hsecond ⊢
  omega

/-- A cadence that lets time pass fires later than the instant it is asked about. -/
theorem Cadence.lt_next {cadence : Cadence} (hpositive : cadence.Positive)
    {now next : DateTime} (hnow : now.clock.Valid)
    (hnext : cadence.next? now = some next) : now < next := by
  cases cadence with
  | every period =>
    obtain ⟨delta, hdelta, hadd⟩ := Option.bind_eq_some_iff.mp hnext
    simp only [Span.delta?, Option.ite_none_right_eq_some, Option.some.injEq] at hdelta
    obtain ⟨-, rfl⟩ := hdelta
    exact DateTime.lt_of_add? hnow (Int.natCast_pos.mpr hpositive) hadd
  | daily time =>
    simp only [Cadence.next?] at hnext
    split at hnext
    next htoday => exact Option.some.inj hnext ▸ htoday
    next =>
      simp only [DateTime.add?, Option.ite_none_right_eq_some, Option.some.injEq] at hnext
      obtain ⟨-, rfl⟩ := hnext
      exact lt_of_day_lt hnow (Int.lt_add_of_pos_right _ (one_le_advance_dayLength time))

/-! ### One slot -/

namespace Slot

/-- A slot is due from its due instant on. -/
theorem isDue_iff {slot : Slot ι} {now : DateTime} :
    slot.isDue now = true ↔ ∃ next, slot.nextDue = some next ∧ next ≤ now := by
  cases h : slot.nextDue <;> simp [isDue, h]

/-- A slot is due when its cadence first fires after its last run. -/
structure Kept (slot : Slot ι) : Prop where
  due : slot.nextDue = slot.cadence.next? slot.lastRun
  valid : slot.lastRun.clock.Valid

/-- A slot starts with the invariant. -/
theorem kept_start (job : ι) (cadence : Cadence) {now : DateTime}
    (hnow : now.clock.Valid) :
    (start job cadence now).Kept :=
  ⟨rfl, hnow⟩

/-- A poll does not change which job a slot holds. -/
@[simp] theorem advance_job (slot : Slot ι) (now : DateTime) :
    (slot.advance now).job = slot.job := by
  unfold advance; split <;> rfl

/-- A window that is handed out is not empty, even when the clock has stepped back since
the last poll. -/
theorem Kept.lt_of_isDue {slot : Slot ι} (h : slot.Kept)
    (hpositive : slot.cadence.Positive) {now : DateTime} (hdue : slot.isDue now = true) :
    slot.lastRun < now := by
  obtain ⟨next, hnext, hle⟩ := isDue_iff.mp hdue
  have hlt : slot.lastRun < next := Cadence.lt_next hpositive h.valid (h.due ▸ hnext)
  exact Int.lt_of_lt_of_le hlt hle

/-- The windows that a slot is handed in the course of several uses. -/
def windows (slot : Slot ι) : List (Use ι) → List Window
  | [] => []
  | .add _ :: rest => slot.windows rest
  | .poll now :: rest =>
    if slot.isDue now then (slot.dueJob now).window ::
      (start slot.job slot.cadence now).windows rest
    else slot.windows rest

/-- The windows of a slot lie end to end from its last run on. -/
theorem tiles_windows (slot : Slot ι) (uses : List (Use ι)) :
    Tiles slot.lastRun (slot.windows uses) := by
  induction uses generalizing slot with
  | nil => trivial
  | cons use rest ih =>
    cases use with
    | add addition => exact ih slot
    | poll now =>
      unfold windows
      split
      · exact ⟨rfl, ih (start slot.job slot.cadence now)⟩
      · exact ih slot

/-- The windows of a slot whose cadence lets time pass are not empty. -/
theorem Kept.windows_nonempty {slot : Slot ι} (h : slot.Kept)
    (hpositive : slot.cadence.Positive) {uses : List (Use ι)}
    (hvalid : ∀ use ∈ uses, use.now.clock.Valid) :
    ∀ window ∈ slot.windows uses, window.since < window.now := by
  induction uses generalizing slot with
  | nil => simp [windows]
  | cons use rest ih =>
    obtain ⟨hnow, hrest⟩ := List.forall_mem_cons.mp hvalid
    cases use with
    | add addition => exact ih h hpositive hrest
    | poll now =>
      unfold windows
      split
      next hdue =>
        rintro window (_ | ⟨_, hwindow⟩)
        · exact h.lt_of_isDue hpositive hdue
        · exact ih (kept_start slot.job slot.cadence hnow) hpositive hrest window hwindow
      next => exact ih h hpositive hrest

end Slot

/-! ### The slots of a schedule -/

namespace Schedule

/-- One element of a list stands at a place. -/
theorem filter_zipIdx {α : Type} (items : List α) (first place : Nat) :
    (items.zipIdx first).filter (fun p => p.2 == first + place) =
      (items[place]?.map fun item => (item, first + place)).toList := by
  induction items generalizing first place with
  | nil => rfl
  | cons item rest ih =>
    cases place with
    | zero =>
      have hrest : (rest.zipIdx (first + 1)).filter (fun p => p.2 == first) = [] := by
        refine List.filter_eq_nil_iff.mpr fun p hp => ?_
        have hlater : first + 1 ≤ p.2 := (List.mem_zipIdx hp).1
        simp only [beq_iff_eq]
        omega
      simp [hrest]
    | succ place =>
      have hne : (first == first + (place + 1)) = false := by simp
      have hshift : first + (place + 1) = first + 1 + place := by omega
      rw [List.zipIdx_cons, List.filter_cons_of_neg (by simp), hshift, ih]
      simp

/-- What is handed out for a place is what its slot gets. -/
theorem windows_handed (s : Schedule ι) (now : DateTime) (place : Nat) :
    ((s.handed now).filter fun p => p.1 == place).map (·.2.window) =
      ((s.slots[place]?.filter (·.isDue now)).map fun slot =>
        (slot.dueJob now).window).toList := by
  have hplace := filter_zipIdx s.slots 0 place
  simp only [Nat.zero_add] at hplace
  simp only [handed, List.filter_map, List.map_map, Function.comp_def]
  rw [List.filter_comm, hplace]
  cases s.slots[place]? with
  | none => rfl
  | some slot => cases hdue : slot.isDue now <;> simp [Option.filter_some, hdue]

@[simp] theorem use_add_slots (s : Schedule ι) (addition : Addition ι) :
    (s.use (.add addition)).slots =
      s.slots ++ [.start addition.job addition.cadence addition.now] := rfl

@[simp] theorem use_poll_slots (s : Schedule ι) (now : DateTime) :
    (s.use (.poll now)).slots = s.slots.map (·.advance now) := rfl

/-- The windows of a place are those of the slot that stands there. -/
theorem windows_eq {s : Schedule ι} {place : Nat} {slot : Slot ι}
    (h : s.slots[place]? = some slot) (uses : List (Use ι)) :
    s.windows place uses = slot.windows uses := by
  induction uses generalizing s slot with
  | nil => rfl
  | cons use rest ih =>
    cases use with
    | add addition =>
      refine ih ?_
      simp [List.getElem?_append_left (List.getElem?_eq_some_iff.mp h).1, h]
    | poll now =>
      have hnext :
          (s.use (.poll now)).slots[place]? = some (slot.advance now) := by simp [h]
      rw [windows, windows_handed, ih hnext, h, Slot.windows]
      cases hdue :
        slot.isDue now <;> simp [Option.filter_some, hdue, Slot.advance, Slot.dueJob]

/-- The windows of a job that is still to be added are those of its slot from then on. -/
theorem windows_added {s : Schedule ι} {place : Nat} {addition : Addition ι}
    {uses : List (Use ι)} (h : (additions uses)[place]? = some addition) :
    ∃ later, later <:+ uses ∧ .add addition ∈ uses ∧ s.windows (s.size + place) uses =
      (Slot.start addition.job addition.cadence addition.now).windows later := by
  induction uses generalizing s place with
  | nil => simp [additions] at h
  | cons use rest ih =>
    cases use with
    | add first =>
      cases place with
      | zero =>
        obtain rfl : first = addition := by simpa [additions] using h
        refine ⟨rest, List.suffix_cons _ _, by simp, windows_eq ?_ rest⟩
        simp [size]
      | succ place =>
        obtain ⟨later, hlater, hmem, hwindows⟩ := ih (s := s.use (.add first)) h
        refine ⟨later, hlater.trans (List.suffix_cons _ _),
          List.mem_cons_of_mem _ hmem, ?_⟩
        rw [← hwindows, windows]
        congr 1
        simp [size]
        omega
    | poll now =>
      obtain ⟨later, hlater, hmem, hwindows⟩ := ih (s := s.use (.poll now)) h
      refine ⟨later, hlater.trans (List.suffix_cons _ _), List.mem_cons_of_mem _ hmem, ?_⟩
      have hnone : s.slots[s.size + place]? = none :=
        List.getElem?_eq_none (Nat.le_add_right _ _)
      have hsize : (s.use (.poll now)).size = s.size := by simp [size]
      rw [windows, windows_handed, hnone, ← hwindows, hsize]
      rfl

/-- Each slot holds the job that was added for its place. -/
theorem jobs_after (s : Schedule ι) (uses : List (Use ι)) :
    (s.after uses).slots.map (·.job) =
      s.slots.map (·.job) ++ (additions uses).map (·.job) := by
  induction uses generalizing s with
  | nil => simp [after, additions]
  | cons use rest ih =>
    refine (ih (s.use use)).trans ?_
    cases use with
    | add addition => simp [additions, Slot.start]
    | poll now => simp [additions]

/-- The earlier of two instants has come once either has. -/
theorem earlier_le (a b now : DateTime) : earlier a b ≤ now ↔ a ≤ now ∨ b ≤ now := by
  have hle (t u : DateTime) : t ≤ u ↔ t.rank ≤ u.rank := Iff.rfl
  have hlt (t u : DateTime) : t < u ↔ t.rank < u.rank := Iff.rfl
  simp only [earlier, hle, hlt]
  split <;> omega

/-- The earliest of several instants has come exactly if one of them has. -/
theorem foldl_earlier_le (first : DateTime) (rest : List DateTime) (now : DateTime) :
    rest.foldl earlier first ≤ now ↔ ∃ next ∈ first :: rest, next ≤ now := by
  induction rest generalizing first with
  | nil => simp
  | cons next rest ih =>
      simp only [List.foldl_cons, ih, List.exists_mem_cons_iff, earlier_le, or_assoc]

/-- The next instant of a schedule has come exactly if some slot is due. -/
theorem nextDue?_le_iff (s : Schedule ι) (now : DateTime) :
    (∃ next, s.nextDue? = some next ∧ next ≤ now) ↔
    ∃ slot ∈ s.slots, slot.isDue now = true := by
  have hdue : (∃ slot ∈ s.slots, slot.isDue now = true) ↔
      ∃ next ∈ s.slots.filterMap Slot.nextDue, next ≤ now := by
    simp only [Slot.isDue_iff, List.mem_filterMap]
    tauto
  rw [hdue, nextDue?]
  cases s.slots.filterMap Slot.nextDue with
  | nil => simp
  | cons first rest => simp [foldl_earlier_le]

/-- A poll hands out nothing exactly if the next instant of the schedule is absent or
still to come. -/
theorem due_eq_nil_iff (s : Schedule ι) (now : DateTime) :
    (s.due now).1 = [] ↔ ∀ next, s.nextDue? = some next → now < next := by
  have hlt (next : DateTime) : now < next ↔ ¬ next ≤ now := Int.not_le.symm
  have hnext := not_congr (s.nextDue?_le_iff now)
  simp only [not_exists, not_and] at hnext
  simp only [due, List.map_eq_nil_iff, List.filter_eq_nil_iff, hlt, hnext]

/-- The places say which slots a poll hands out. -/
theorem mem_handed {s : Schedule ι} {now : DateTime} {place : Nat} {job : DueJob ι}
    (h : (place, job) ∈ s.handed now) :
    ∃ slot, s.slots[place]? = some slot ∧ slot.dueJob now = job := by
  simp only [handed, List.mem_map, List.mem_filter, Prod.mk.injEq] at h
  obtain ⟨⟨slot, p⟩, ⟨hslot, -⟩, rfl, rfl⟩ := h
  exact ⟨slot, List.mk_mem_zipIdx_iff_getElem?.mp hslot, rfl⟩

/-- What a poll does, whatever was done before it. -/
theorem polled (uses : List (Use ι)) (now : DateTime) :
    (({} : Schedule ι).after uses).Polled (additions uses) now where
  handed := by
    simp only [due, handed, List.map_map, Function.comp_def]
    conv_lhs =>
      rw [← List.zipIdx_map_fst 0 (Schedule.slots _), List.filter_map, List.map_map]
    rfl
  ordered := by
    simp only [handed, List.map_map, Function.comp_def]
    refine List.Pairwise.sublist (List.filter_sublist.map _) ?_
    rw [List.zipIdx_map_snd]
    exact List.pairwise_lt_range'
  known place job h := by
    obtain ⟨slot, hslot, rfl⟩ := mem_handed h
    have hjobs := congrArg (·[place]?) (jobs_after ({} : Schedule ι) uses)
    simp only [List.getElem?_map, hslot, List.map_nil, List.nil_append,
      Option.map_some] at hjobs
    exact ⟨rfl, Option.map_eq_some_iff.mp hjobs.symm⟩
  idle := due_eq_nil_iff _ now

/-- **Schedules tile time.**  Every poll hands out slots in the order in which they were
added, each at most once, and nothing exactly if the next instant is absent or still to
come.  Over all polls together the windows of one place lie end to end from the instant
at which its job was added. -/
theorem tiles (uses : List (Use ι)) (hvalid : ∀ use ∈ uses, use.now.clock.Valid) :
    (∀ before now later, uses = before ++ .poll now :: later →
      (({} : Schedule ι).after before).Polled (additions before) now) ∧
    (∀ place (addition : Addition ι), (additions uses)[place]? = some addition →
      addition.Tiled (({} : Schedule ι).windows place uses)) := by
  refine ⟨fun before now _ _ => polled before now, fun place addition h => ?_⟩
  obtain ⟨later, hlater, hmem, hwindows⟩ := windows_added (s := ({} : Schedule ι)) h
  rw [show ({} : Schedule ι).size + place = place from Nat.zero_add place] at hwindows
  rw [hwindows]
  refine ⟨(Slot.start addition.job addition.cadence addition.now).tiles_windows later,
    fun hpositive => ?_⟩
  have hnow : addition.now.clock.Valid := hvalid _ hmem
  exact (Slot.kept_start addition.job addition.cadence hnow).windows_nonempty hpositive
    fun use huse => hvalid use (hlater.subset huse)

/-- Noon of 1 March 2024 and some seconds. -/
def noonAnd (seconds : Nat) : DateTime := ⟨19783, ⟨43200 + seconds, 0⟩⟩

/-- Two jobs that are polled late, then early by a clock that has stepped back, then on
time. -/
def noonUses : List (Use String) :=
  [.add ⟨"retry", .every (.ofSeconds 60), noonAnd 0⟩,
    .add ⟨"report", .daily ⟨43230, 0⟩, noonAnd 0⟩, .poll (noonAnd 90), .poll (noonAnd 10),
    .poll (noonAnd 150)]

/-- The early poll hands out nothing, and the windows of both jobs lie end to end. -/
theorem tiles_noon :
    (∀ use ∈ noonUses, use.now.clock.Valid) ∧
    (Addition.mk "retry" (.every (.ofSeconds 60)) (noonAnd 0)).Tiled
      (({} : Schedule String).windows 0 noonUses) ∧
    ({} : Schedule String).windows 0 noonUses =
      [⟨noonAnd 0, noonAnd 90⟩, ⟨noonAnd 90, noonAnd 150⟩] ∧
    ({} : Schedule String).windows 1 noonUses = [⟨noonAnd 0, noonAnd 90⟩] := by
  have hvalid : ∀ use ∈ noonUses, use.now.clock.Valid := by
    simp [noonUses, Use.now, noonAnd, Clock.Valid, Clock.secondsPerDay,
      Time.nanosPerSecond]
  exact ⟨hvalid, (tiles noonUses hvalid).2 0 _ rfl, by decide, by decide⟩

end Schedule

end Turnstile.Agenda
