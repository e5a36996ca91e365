import Turnstile.Proofs.Time.Window

/-!
# Universal time

Where no leap second is met, instants are counted in nanoseconds (`DateTime.nanos`):
moves add to the count, and differences are those of the counts.  Moves and differences
treat leap seconds differently, so neither is true of them.

The clocks of universal time show every instant as it is, so that a time of day is found
in every window in which it occurs (`Window.hasTime_utc`), without the exceptions that
other zones make.
-/

set_option autoImplicit false

namespace Turnstile.Time

namespace DateTime

variable {t u : DateTime}

/-- An instant that can be written down: its time of day is one, and its day is in the
calendar. -/
structure Representable (t : DateTime) : Prop where
  clock : t.clock.Valid
  day : Day.inCalendar t.day = true

/-- Nanoseconds since the start of 1970, for instants outside leap seconds. -/
def nanos (t : DateTime) : Int := t.seconds * (nanosPerSecond : Int) + t.clock.nano

/-- Outside leap seconds the order of instants is that of their nanoseconds. -/
theorem le_iff_nanos (ht : t.clock.nano < nanosPerSecond)
    (hu : u.clock.nano < nanosPerSecond) :
    t ≤ u ↔ t.nanos ≤ u.nanos := by
  show t.rank ≤ u.rank ↔ _
  simp only [rank_eq, nanos, nanosPerSecond] at *
  omega

/-- Outside leap seconds a difference is one of nanoseconds. -/
theorem since_eq_nanos (ht : t.clock.nano < nanosPerSecond)
    (hu : u.clock.nano < nanosPerSecond) :
    t.since u = t.nanos - u.nanos := by
  have hleap : t.clock.isLeap = false := decide_eq_false (Nat.not_le.2 ht)
  have hleap' : u.clock.isLeap = false := decide_eq_false (Nat.not_le.2 hu)
  simp only [since, Clock.difference, hleap, hleap', Bool.false_eq_true, and_false,
    if_false, nanos, seconds, Clock.secondsPerDay, nanosPerSecond]
  unfold Day at *
  omega

/-- Outside leap seconds a move adds to the nanoseconds. -/
theorem nanos_of_add? (ht : t.clock.nano < nanosPerSecond) {delta : Int}
    (h : t.add? delta = some u) :
    u.nanos = t.nanos + delta ∧ u.clock.nano < nanosPerSecond := by
  have hleap : t.clock.isLeap = false := decide_eq_false (Nat.not_le.2 ht)
  simp only [add?, Clock.advance, hleap, Bool.false_eq_true, if_false,
    Option.ite_none_right_eq_some, Option.some.injEq] at h
  obtain ⟨-, rfl⟩ := h
  have hparts := Int.mul_tdiv_add_tmod delta 1000000000
  generalize delta.tdiv 1000000000 = whole at hparts ⊢
  generalize delta.tmod 1000000000 = part at hparts ⊢
  have hemod (a b : Int) : a.emod b = a % b := rfl
  simp only [Int.fdiv_eq_ediv_of_nonneg _ (show (0 : Int) ≤ 1000000000 by decide),
    hemod, nanos, seconds, Clock.secondsPerDay, nanosPerSecond]
  rw [Int.fdiv_eq_ediv_of_nonneg _ (by decide)]
  unfold Day at *
  omega

/-- A day leads to the same time of the next day, as far as the calendar goes. -/
theorem add?_day (ht : t.clock.Valid) (hleap : t.clock.nano < nanosPerSecond) :
    t.add? (86400 * (nanosPerSecond : Int)) =
      if Day.inCalendar (t.day + 1) then some ⟨t.day + 1, t.clock⟩ else none := by
  have hsame : t.shift 86400 = ⟨t.day + 1, t.clock⟩ := by
    refine eq_of_seconds_eq (valid_shift ht _) ht ?_ rfl
    rw [seconds_shift]
    simp only [seconds, Clock.secondsPerDay]
    unfold Day at *
    omega
  rw [add?_seconds hleap, hsame]

/-- Later times are on later days, or on the same one. -/
theorem day_le_of_le (ht : t.clock.Valid) (hu : u.clock.Valid) (h : t ≤ u) :
    t.day ≤ u.day := by
  rw [day_eq ht, day_eq hu]
  exact Int.ediv_le_ediv (by decide) (seconds_le_of_le hu h)

/-- Of two days with one time of day the later is the later time. -/
theorem le_of_day_le {day later : Day} {c : Clock} (h : day ≤ later) :
    (⟨day, c⟩ : DateTime) ≤ ⟨later, c⟩ := by
  refine le_of_seconds_le ?_ rfl
  simp only [seconds, Clock.secondsPerDay]
  unfold Day at *
  omega

end DateTime

namespace Zone

variable {t : DateTime}

/-- The clocks of universal time show every instant as it is. -/
theorem toLocal_utc (ht : t.clock.Valid) : utc.toLocal t = t :=
  DateTime.eq_of_seconds_eq (DateTime.valid_shift ht _) ht
    ((DateTime.seconds_shift t 0).trans (Int.add_zero _)) rfl

/-- In UTC every reading of the clocks is its own instant. -/
theorem occurrence?_utc (ht : t.clock.Valid) : utc.occurrence? t = some t := by
  have hshift : t.shift (-0) = t := toLocal_utc ht
  have hreadings : utc.readings t = [t] := congrArg (fun instant => [instant]) hshift
  simp only [occurrence?, hreadings]

end Zone

namespace Window

variable {w : Window} {time : Clock}

/-- **Times of day in universal time** are found in every window in which they occur. -/
theorem hasTime_utc (hsince : w.since.Representable) (hnow : w.now.Representable)
    (htime : time.Valid) :
    w.hasTime .utc time = true ↔ ∃ day : Day, w.contains ⟨day, time⟩ = true := by
  have hfound (day : Day) : Zone.utc.occurrence? ⟨day, time⟩ = some ⟨day, time⟩ :=
    Zone.occurrence?_utc htime
  simp only [hasTime, hasTimeOn, List.any_eq_true, hfound]
  constructor
  · rintro ⟨day, -, hcontains⟩
    exact ⟨day, hcontains⟩
  · rintro ⟨day, hcontains⟩
    refine ⟨day, ?_, hcontains⟩
    obtain ⟨hfirst, hlast⟩ := contains_iff.1 hcontains
    have hearly : w.since.day ≤ day :=
      DateTime.day_le_of_le hsince.clock htime (DateTime.le_of_lt hfirst)
    have hlate : day ≤ w.now.day := DateTime.day_le_of_le htime hnow.clock hlast
    have hend : w.now.day ≤ lastDay :=
      of_decide_eq_true (Bool.and_eq_true_iff.1 hnow.day).2
    simp only [localDates, Zone.toLocal_utc hsince.clock,
      Zone.toLocal_utc hnow.clock, mem_days]
    refine ⟨?_, Int.le_min.2 ⟨hlate, Int.le_trans hlate hend⟩⟩
    unfold Day at *
    split <;> omega

end Window

end Turnstile.Time
