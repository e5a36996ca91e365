import Mathlib.Data.List.Basic
import Mathlib.Tactic.Common
import Turnstile.Time.DateTime

/-!
# The order of instants

Instants are ordered by their seconds since 1970, and within a second by their
nanoseconds.  A move by nanoseconds leads forward if it is positive
(`DateTime.lt_of_add?`); a move of a time outside leap seconds by whole seconds is a
shift (`DateTime.add?_seconds`), and a shift adds to the seconds.
-/

set_option autoImplicit false

namespace Turnstile.Time

/-- Outside leap seconds a move by whole seconds keeps the nanoseconds. -/
theorem Clock.advance_seconds {c : Clock} (hc : c.nano < nanosPerSecond) (seconds : Int) :
    c.advance (seconds * (nanosPerSecond : Int)) =
      (⟨((c.second + seconds) % 86400).toNat, c.nano⟩, (c.second + seconds) / 86400) := by
  change c.advance (seconds * 1000000000) = _
  have hleap : c.isLeap = false := decide_eq_false (Nat.not_le.2 hc)
  have hnano : c.nano < 1000000000 := hc
  have hwhole : (seconds * 1000000000).tdiv 1000000000 = seconds :=
    Int.mul_tdiv_cancel _ (by decide)
  have hpart : (seconds * 1000000000).tmod 1000000000 = 0 := Int.mul_tmod_left _ _
  have hfdiv : (c.nano : Int).fdiv 1000000000 = 0 := by
    rw [Int.fdiv_eq_ediv_of_nonneg _ (by decide)]
    omega
  have hemod : ((c.nano : Int).emod 1000000000).toNat = c.nano := by
    change ((c.nano : Int) % 1000000000).toNat = c.nano
    omega
  simp only [advance, hleap, hwhole, hpart, Int.add_zero, hfdiv, hemod, secondsPerDay]
  exact congrArg (Prod.mk _) (Int.fdiv_eq_ediv_of_nonneg _ (by decide))

namespace DateTime

variable {t u : DateTime}

/-- A position on the line of date-times is a second and what has passed of it. -/
theorem rank_eq (t : DateTime) : t.rank = t.seconds * 2000000000 + t.clock.nano := by
  simp only [rank, seconds, Clock.rank, Clock.secondsPerDay, nanosPerSecond]
  omega

/-- A later second, or a later nanosecond of the same one, is a later time. -/
theorem lt_of_seconds_lt (ht : t.clock.nano < 2000000000)
    (h : t.seconds < u.seconds ∨ (t.seconds = u.seconds ∧ t.clock.nano < u.clock.nano)) :
    t < u := by
  show t.rank < u.rank
  rw [rank_eq, rank_eq]
  omega

/-- A second that is not later, with the same nanoseconds, is a time that is not later. -/
theorem le_of_seconds_le (h : t.seconds ≤ u.seconds)
    (hnano : t.clock.nano = u.clock.nano) : t ≤ u := by
  show t.rank ≤ u.rank
  rw [rank_eq, rank_eq]
  omega

/-- Earlier times are in earlier seconds, or in the same one. -/
theorem seconds_le_of_le (hu : u.clock.Valid) (h : t ≤ u) : t.seconds ≤ u.seconds := by
  have hrank : t.rank ≤ u.rank := h
  have hnano : u.clock.nano < 2000000000 := hu.2
  rw [rank_eq, rank_eq] at hrank
  omega

theorem le_of_lt (h : t < u) : t ≤ u := Int.le_of_lt (show t.rank < u.rank from h)

/-- The day of an instant. -/
theorem day_eq (ht : t.clock.Valid) : t.day = t.seconds / 86400 := by
  have hsecond : t.clock.second < 86400 := ht.1
  simp only [seconds, Clock.secondsPerDay]
  unfold Day
  omega

/-- Times are told apart by their seconds and nanoseconds. -/
theorem eq_of_seconds_eq (ht : t.clock.Valid) (hu : u.clock.Valid)
    (hseconds : t.seconds = u.seconds) (hnano : t.clock.nano = u.clock.nano) : t = u := by
  have hday : t.day = u.day := by rw [day_eq ht, day_eq hu, hseconds]
  obtain ⟨day, second, nano⟩ := t
  obtain ⟨other, instant, part⟩ := u
  obtain rfl : day = other := hday
  obtain rfl : nano = part := hnano
  simp only [seconds, Clock.secondsPerDay] at hseconds
  obtain rfl : second = instant := by omega
  rfl

/-! ## Shifts -/

@[simp] theorem day_shift (t : DateTime) (offset : Int) :
    (t.shift offset).day = (t.seconds + offset) / 86400 :=
  Int.fdiv_eq_ediv_of_nonneg _ (by decide)

/-- A shift moves an instant by whole seconds. -/
@[simp] theorem seconds_shift (t : DateTime) (offset : Int) :
    (t.shift offset).seconds = t.seconds + offset := by
  have hsecond : ((t.shift offset).clock.second : Int) = (t.seconds + offset) % 86400 :=
    Int.toNat_of_nonneg (Int.emod_nonneg _ (by decide))
  rw [seconds, day_shift, hsecond]
  exact Int.ediv_mul_add_emod _ _

/-- A shift leads to a time of day. -/
theorem valid_shift (ht : t.clock.Valid) (offset : Int) :
    (t.shift offset).clock.Valid := by
  refine ⟨?_, ht.2⟩
  have hlt : (t.seconds + offset) % 86400 < 86400 := Int.emod_lt_of_pos _ (by decide)
  exact (Int.toNat_lt (Int.emod_nonneg _ (by decide))).2 hlt

/-! ## Moves -/

/-- Moving forward leads to a later time, also out of a leap second. -/
theorem lt_advance {day : Int} {c : Clock} (hc : c.Valid) {delta : Int}
    (hdelta : 0 < delta) :
    (⟨day, c⟩ : DateTime) < ⟨day + (c.advance delta).2, (c.advance delta).1⟩ := by
  obtain ⟨hsecond, hnano⟩ := hc
  refine lt_of_seconds_lt hnano ?_
  have hnonneg : 0 ≤ delta := Int.le_of_lt hdelta
  have hemod (a b : Int) : a.emod b = a % b := rfl
  simp only [Clock.advance, Clock.isLeap, DateTime.seconds, Clock.secondsPerDay,
    Time.nanosPerSecond, Int.tdiv_eq_ediv_of_nonneg hnonneg,
    Int.tmod_eq_emod_of_nonneg hnonneg, Int.fdiv_eq_ediv_of_nonneg _
      (show (0 : Int) ≤ 1000000000 by decide)] at hsecond hnano ⊢
  split
  next hleap =>
    have hlate := of_decide_eq_true hleap
    split
    · simp only [hemod]
      rw [Int.fdiv_eq_ediv_of_nonneg _ (by decide)]
      omega
    · split <;> simp only <;> omega
  next =>
    simp only [hemod]
    rw [Int.fdiv_eq_ediv_of_nonneg _ (by decide)]
    omega

/-- Adding a positive difference leads to a later time. -/
theorem lt_of_add? (ht : t.clock.Valid) {delta : Int} (hdelta : 0 < delta)
    (h : t.add? delta = some u) : t < u := by
  simp only [DateTime.add?, Option.ite_none_right_eq_some, Option.some.injEq] at h
  obtain ⟨-, rfl⟩ := h
  exact lt_advance ht hdelta

/-- Outside leap seconds a move by whole seconds is a shift, as far as the calendar
goes. -/
theorem add?_seconds (ht : t.clock.nano < nanosPerSecond) (seconds : Int) :
    t.add? (seconds * (nanosPerSecond : Int)) =
      if Day.inCalendar (t.shift seconds).day then some (t.shift seconds) else none := by
  have hday : t.day + (t.clock.second + seconds) / 86400 = (t.shift seconds).day := by
    simp only [day_shift, DateTime.seconds, Clock.secondsPerDay]
    unfold Day
    omega
  have hpart : (t.clock.second + seconds) % 86400 = (t.seconds + seconds) % 86400 := by
    simp only [DateTime.seconds, Clock.secondsPerDay]
    omega
  have hclock : (⟨((t.clock.second + seconds) % 86400).toNat, t.clock.nano⟩ : Clock) =
      (t.shift seconds).clock := by
    rw [hpart]
    rfl
  rw [add?, Clock.advance_seconds ht, hclock]
  simp only [hday]

end DateTime

end Turnstile.Time
