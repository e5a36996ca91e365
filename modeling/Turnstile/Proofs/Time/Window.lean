import Turnstile.Proofs.Time.Zone
import Turnstile.Time.Window

/-!
# Times of day in windows

`Zone.Occurs` says when a reading of the clocks of a zone occurs: at the first instant
that shows it, and if they are put forward over it, when the old offset would have shown
it.  `Zone.Regular.occurrence?_eq_some` says that `Zone.occurrence?` finds it.

A window is checked by looking at the local dates from the day before its start to the
date that the clocks show at its end.  No earlier date has an occurrence in the window
(`Zone.Occurs.le_day`).  A later date has one only if the clocks were put back over
midnight within the window; such an occurrence is missed.  All others are found, and if
the dates do not go back, windows that lie end to end find together what the window over
both finds.
-/

set_option autoImplicit false

namespace Turnstile.Time

/-! ## What is to be shown -/

/-- When a reading of local clocks occurs: at the first instant that shows it, or, when
the clocks are put forward over it, when the old offset would have shown it. -/
inductive Zone.Occurs (zone : Zone) (reading : DateTime) : DateTime → Prop
  | shown {t : DateTime} (hvalid : t.clock.Valid) (hshows : zone.toLocal t = reading)
      (hfirst : ∀ u, zone.toLocal u = reading → t ≤ u) : Occurs zone reading t
  | leftOut {change : Int} (hnever : ∀ u, zone.toLocal u ≠ reading)
      (hbefore : change + zone.offsetAt (change - 1) ≤ reading.seconds)
      (hafter : reading.seconds < change + zone.offsetAt change) :
      Occurs zone reading (reading.shift (-zone.offsetAt (change - 1)))

namespace Window

/-- A window that runs forward, some days away from the ends of the calendar. -/
structure Proper (w : Window) : Prop where
  since : w.since.clock.Valid
  now : w.now.clock.Valid
  forward : w.since ≤ w.now
  early : firstDay + 4 ≤ w.since.day
  late : w.now.day ≤ lastDay - 4

/-- Within the window the clocks of a zone are not put back to an earlier date. -/
def DatesAdvance (w : Window) (zone : Zone) : Prop :=
  ∀ s t : DateTime, s.clock.Valid → t.clock.Valid → w.since < s → s ≤ t → t ≤ w.now →
    (zone.toLocal s).day ≤ (zone.toLocal t).day

end Window

/-! ## Occurrences -/

namespace Zone

variable {zone : Zone} {reading t u : DateTime}

/-- The local date is that of the seconds which the clocks show. -/
theorem day_toLocal (zone : Zone) (t : DateTime) :
    (zone.toLocal t).day = zone.shown t.seconds / 86400 :=
  DateTime.day_shift _ _

/-- The local reading has the seconds which the clocks show. -/
theorem seconds_toLocal (zone : Zone) (t : DateTime) :
    (zone.toLocal t).seconds = zone.shown t.seconds :=
  DateTime.seconds_shift _ _

/-- A reading is shown at an instant if its second is, with the same nanoseconds. -/
theorem toLocal_eq_iff (hreading : reading.clock.Valid) (ht : t.clock.Valid) :
    zone.toLocal t = reading ↔
      zone.shown t.seconds = reading.seconds ∧ t.clock.nano = reading.clock.nano := by
  constructor
  · rintro rfl
    exact ⟨(seconds_toLocal zone t).symm, rfl⟩
  · rintro ⟨hseconds, hnano⟩
    exact DateTime.eq_of_seconds_eq (DateTime.valid_shift ht _) hreading
      ((seconds_toLocal zone t).trans hseconds) hnano

/-- The instant at a second that shows the second of a reading. -/
theorem toLocal_shift (hreading : reading.clock.Valid) {s : Int}
    (hs : zone.shown s = reading.seconds) :
    zone.toLocal (reading.shift (s - reading.seconds)) = reading := by
  rw [toLocal_eq_iff hreading (DateTime.valid_shift hreading _), DateTime.seconds_shift]
  exact ⟨by rwa [show reading.seconds + (s - reading.seconds) = s by omega], rfl⟩

/-- A reading is never shown if its second is not. -/
theorem never_shown_iff (hreading : reading.clock.Valid) :
    (∀ u, zone.toLocal u ≠ reading) ↔ ∀ s, zone.shown s ≠ reading.seconds := by
  constructor
  · exact fun h s hs => h _ (toLocal_shift hreading hs)
  · rintro h u rfl
    exact h u.seconds (seconds_toLocal zone u).symm

/-- The instant at a second of a reading, when the second shows the reading first. -/
theorem Occurs.of_first (hreading : reading.clock.Valid) {o : Int}
    (hshown : zone.shown (reading.seconds - o) = reading.seconds)
    (hfirst : ∀ s, zone.shown s = reading.seconds → reading.seconds - o ≤ s) :
    zone.Occurs reading (reading.shift (-o)) := by
  refine .shown (DateTime.valid_shift hreading _) ?_ ?_
  · rw [toLocal_eq_iff hreading (DateTime.valid_shift hreading _), DateTime.seconds_shift]
    exact ⟨hshown, rfl⟩
  · rintro u rfl
    refine DateTime.le_of_seconds_le ?_ rfl
    rw [DateTime.seconds_shift]
    exact hfirst u.seconds (seconds_toLocal zone u).symm

/-- The day of a reading is kept away from the ends of the calendar by a shift of a day
at most. -/
theorem inCalendar_shift (hreading : reading.clock.Valid)
    (hearly : firstDay + 2 ≤ reading.day) (hlate : reading.day ≤ lastDay - 2)
    {offset : Int} (hoffset : -86400 ≤ offset ∧ offset ≤ 86400) :
    Day.inCalendar (reading.shift offset).day = true := by
  rw [DateTime.day_eq hreading] at hearly hlate
  rw [DateTime.day_shift, Day.inCalendar, Bool.and_eq_true, decide_eq_true_eq,
    decide_eq_true_eq]
  unfold Day at *
  omega

/-- What is found for a reading that is shown. -/
theorem occurrence?_of_shown {o : Int}
    (hfirst : (zone.offsetsShowing reading.seconds).head? = some o) :
    zone.occurrence? reading = some (reading.shift (-o)) := by
  obtain ⟨rest, hlist⟩ := List.head?_eq_some_iff.1 hfirst
  simp [occurrence?, readings, hlist]

/-- What is found for a reading that is left out. -/
theorem Regular.occurrence?_of_leftOut (hzone : zone.Regular)
    (hreading : reading.clock.Valid) (hleap : reading.clock.nano < nanosPerSecond)
    (hearly : firstDay + 2 ≤ reading.day) (hlate : reading.day ≤ lastDay - 2)
    {change : Int} (hnever : ∀ u, zone.toLocal u ≠ reading)
    (hbefore : change + zone.offsetAt (change - 1) ≤ reading.seconds)
    (hafter : reading.seconds < change + zone.offsetAt change) :
    zone.occurrence? reading = some (reading.shift (-zone.offsetAt (change - 1))) := by
  have hnone : zone.offsetsShowing reading.seconds = [] :=
    (offsetsShowing_eq_nil hzone.ordered).2 ((never_shown_iff hreading).1 hnever)
  have hbound := hzone.offset_bounded (change - 1)
  have hday : Day.inCalendar (reading.shift (-86400)).day = true :=
    inCalendar_shift hreading hearly hlate (by omega)
  have hfound : Day.inCalendar (reading.shift (-zone.offsetAt (change - 1))).day = true :=
    inCalendar_shift hreading hearly hlate (by omega)
  have hold : (zone.offsetsShowing (reading.shift (-86400)).seconds).head? =
      some (zone.offsetAt (change - 1)) := by
    rw [DateTime.seconds_shift]
    exact hzone.dayBefore hbefore hafter
  simp only [occurrence?, readings, hnone, List.map_nil, nanosOfSeconds,
    DateTime.add?_seconds hleap, hday, hfound, if_true, Option.bind_eq_bind,
    Option.bind_some, hold]

/-- **Occurrences are found.**  Away from the ends of the calendar the occurrence of a
reading outside leap seconds is the one that is found. -/
theorem Regular.occurrence?_eq_some (hzone : zone.Regular)
    (hreading : reading.clock.Valid) (hleap : reading.clock.nano < nanosPerSecond)
    (hearly : firstDay + 2 ≤ reading.day) (hlate : reading.day ≤ lastDay - 2) :
    zone.occurrence? reading = some t ↔ zone.Occurs reading t := by
  constructor
  · intro hfound
    cases hhead : (zone.offsetsShowing reading.seconds).head? with
    | some o =>
      rw [occurrence?_of_shown hhead] at hfound
      obtain rfl := Option.some.inj hfound
      obtain ⟨hshown, hfirst⟩ := (offsetsShowing_head? hzone.ordered).1 hhead
      exact .of_first hreading hshown hfirst
    | none =>
      have hnever :=
        (offsetsShowing_eq_nil hzone.ordered).1 (List.head?_eq_none_iff.1 hhead)
      obtain ⟨change, hbefore, hafter⟩ := hzone.exists_change hnever
      have hunseen := (never_shown_iff hreading).2 hnever
      rw [hzone.occurrence?_of_leftOut hreading hleap hearly hlate hunseen hbefore
        hafter] at hfound
      obtain rfl := Option.some.inj hfound
      exact .leftOut hunseen hbefore hafter
  · rintro (⟨hvalid, hshows, hfirst⟩ | ⟨hnever, hbefore, hafter⟩)
    · obtain ⟨hseconds, hnano⟩ := (toLocal_eq_iff hreading hvalid).1 hshows
      have hhead : (zone.offsetsShowing reading.seconds).head? =
          some (reading.seconds - t.seconds) := by
        rw [offsetsShowing_head? hzone.ordered, Int.sub_sub_self]
        refine ⟨hseconds, fun s hs => ?_⟩
        have hle := DateTime.seconds_le_of_le (DateTime.valid_shift hreading _)
          (hfirst _ (toLocal_shift hreading hs))
        rw [DateTime.seconds_shift] at hle
        omega
      rw [occurrence?_of_shown hhead]
      refine congrArg some
        (DateTime.eq_of_seconds_eq (DateTime.valid_shift hreading _) hvalid ?_ hnano.symm)
      rw [DateTime.seconds_shift]
      omega
    · exact hzone.occurrence?_of_leftOut hreading hleap hearly hlate hnever hbefore hafter

/-- Occurrences are instants. -/
theorem Occurs.valid (h : zone.Occurs reading t) (hreading : reading.clock.Valid) :
    t.clock.Valid := by
  cases h with
  | shown hvalid => exact hvalid
  | leftOut => exact DateTime.valid_shift hreading _

/-- The clocks of a zone show the day of an instant, or the day before or after it. -/
theorem Regular.day_toLocal_near (hzone : zone.Regular) (ht : t.clock.Valid) :
    t.day - 1 ≤ (zone.toLocal t).day ∧ (zone.toLocal t).day ≤ t.day + 1 := by
  have hbound := hzone.offset_bounded t.seconds
  have hnear : t.seconds / 86400 - 1 ≤ zone.shown t.seconds / 86400 ∧
      zone.shown t.seconds / 86400 ≤ t.seconds / 86400 + 1 := by
    simp only [Zone.shown]
    omega
  rw [day_toLocal, DateTime.day_eq ht]
  exact hnear

/-- **No occurrence on earlier dates.**  A reading that occurs after an instant is of
the day before what the clocks show at the instant, or of a later day. -/
theorem Occurs.le_day (hzone : zone.Regular) (hreading : reading.clock.Valid)
    (h : zone.Occurs reading t) {since : DateTime} (hsince : since.seconds ≤ t.seconds) :
    (zone.toLocal since).day - 1 ≤ reading.day := by
  have hshown : zone.shown since.seconds ≤ reading.seconds + 86400 := by
    cases h with
    | shown hvalid hshows hfirst =>
      rw [← ((toLocal_eq_iff hreading hvalid).1 hshows).1]
      exact hzone.shown_le hsince
    | @leftOut change hnever hbefore hafter =>
      rw [DateTime.seconds_shift] at hsince
      -- the occurrence is within a day after the change, so the start is before the
      -- change or soon after
      by_cases hearly : since.seconds < change
      · have hle := hzone.shown_le (u := since.seconds) (v := change - 1) (by omega)
        simp only [Zone.shown] at hle ⊢
        omega
      · have hnew :=
          hzone.offset_after hbefore hafter (s := since.seconds) (by omega) (by omega)
        have hsteady := hzone.steady (u := change - 1) (v := change) (by omega) (by omega)
        simp only [Zone.shown]
        omega
  have hday : zone.shown since.seconds / 86400 - 1 ≤ reading.seconds / 86400 := by omega
  rw [day_toLocal, DateTime.day_eq hreading]
  exact hday

/-- When a reading occurs the clocks show its day, or a later one if they are put
forward over it. -/
theorem Occurs.day_le (hzone : zone.Regular) (hreading : reading.clock.Valid)
    (h : zone.Occurs reading t) : reading.day ≤ (zone.toLocal t).day := by
  cases h with
  | shown hvalid hshows hfirst => exact Int.le_of_eq (congrArg DateTime.day hshows.symm)
  | @leftOut change hnever hbefore hafter =>
    have hnew := hzone.offset_after hbefore hafter
      (s := reading.seconds - zone.offsetAt (change - 1)) (by omega) (Int.le_refl _)
    have hday : reading.seconds / 86400 ≤
        zone.shown (reading.seconds - zone.offsetAt (change - 1)) / 86400 := by
      simp only [Zone.shown]
      omega
    rw [day_toLocal, DateTime.day_eq hreading, DateTime.seconds_shift]
    exact hday

end Zone

/-! ## Windows -/

namespace Window

variable {w : Window} {zone : Zone} {time : Clock} {day : Day}

/-- The days of a span are those from its first to its last. -/
theorem mem_days {first last day : Int} :
    day ∈ days first last ↔ first ≤ day ∧ day ≤ last := by
  rw [days, List.mem_map]
  constructor
  · rintro ⟨i, hi, rfl⟩
    rw [List.mem_range] at hi
    omega
  · rintro ⟨hfirst, hlast⟩
    exact ⟨(day - first).toNat, List.mem_range.2 (by omega), by omega⟩

/-- A window holds its end, and not its start. -/
theorem contains_iff {t : DateTime} : w.contains t = true ↔ w.since < t ∧ t ≤ w.now := by
  rw [contains, Bool.and_eq_true, decide_eq_true_eq, decide_eq_true_eq]

/-- The dates that clocks show in a window are away from the ends of the calendar. -/
theorem Proper.inside (hw : w.Proper) (hzone : zone.Regular) :
    firstDay + 3 ≤ (zone.toLocal w.since).day ∧ (zone.toLocal w.since).day ≤ lastDay - 3 ∧
      (zone.toLocal w.now).day ≤ lastDay - 3 := by
  obtain ⟨hsince, hsince'⟩ := hzone.day_toLocal_near hw.since
  obtain ⟨-, hnow⟩ := hzone.day_toLocal_near hw.now
  have hforward : w.since.seconds / 86400 ≤ w.now.seconds / 86400 :=
    Int.ediv_le_ediv (by decide) (DateTime.seconds_le_of_le hw.now hw.forward)
  rw [← DateTime.day_eq hw.since, ← DateTime.day_eq hw.now] at hforward
  have hearly := hw.early
  have hlate := hw.late
  unfold Day at *
  omega

/-- The dates that are looked at. -/
theorem Proper.mem_localDates (hw : w.Proper) (hzone : zone.Regular) {day : Int} :
    day ∈ w.localDates zone ↔
      (zone.toLocal w.since).day - 1 ≤ day ∧ day ≤ (zone.toLocal w.now).day := by
  obtain ⟨hearly, hlate, hnow⟩ := hw.inside hzone
  have hfirst : Day.inCalendar ((zone.toLocal w.since).day - 1) = true := by
    rw [Day.inCalendar, Bool.and_eq_true, decide_eq_true_eq, decide_eq_true_eq]
    unfold Day at *
    omega
  have hlast : min (zone.toLocal w.now).day lastDay = (zone.toLocal w.now).day :=
    Int.min_eq_left (Int.le_trans hnow (Int.sub_le_self _ (by decide)))
  simp only [localDates, hfirst, if_true, hlast, mem_days]

/-- **Occurrences on the dates up to the last.**  A time of day is found in a window if
it occurs in it on a date that is not after the one that the clocks show at its end. -/
theorem Proper.hasTime_iff (hw : w.Proper) (hzone : zone.Regular) (htime : time.Valid)
    (hleap : time.nano < nanosPerSecond) :
    w.hasTime zone time = true ↔ ∃ (day : Day) (t : DateTime),
      day ≤ (zone.toLocal w.now).day ∧ zone.Occurs ⟨day, time⟩ t ∧
      w.contains t = true := by
  obtain ⟨hearly, -, hnow⟩ := hw.inside hzone
  have hfound : ∀ (day : Day) (t : DateTime), (zone.toLocal w.since).day - 1 ≤ day →
      day ≤ (zone.toLocal w.now).day →
      (zone.occurrence? ⟨day, time⟩ = some t ↔ zone.Occurs ⟨day, time⟩ t) := by
    intro day t hfirst hlast
    have hcalendar : firstDay + 2 ≤ day ∧ day ≤ lastDay - 2 := by
      unfold Day at *
      omega
    exact hzone.occurrence?_eq_some htime hleap hcalendar.1 hcalendar.2
  rw [hasTime, hasTimeOn, List.any_eq_true]
  constructor
  · rintro ⟨day, hday, hhas⟩
    obtain ⟨hfirst, hlast⟩ := (hw.mem_localDates hzone).1 hday
    split at hhas
    next t ht => exact ⟨day, t, hlast, (hfound day t hfirst hlast).1 ht, hhas⟩
    next => cases hhas
  · rintro ⟨day, t, hlast, hoccurs, hcontains⟩
    have hsince : w.since.seconds ≤ t.seconds :=
      DateTime.seconds_le_of_le (hoccurs.valid htime)
        (DateTime.le_of_lt (contains_iff.1 hcontains).1)
    have hfirst := hoccurs.le_day hzone htime hsince
    refine ⟨day, (hw.mem_localDates hzone).2 ⟨hfirst, hlast⟩, ?_⟩
    rw [(hfound day t hfirst hlast).2 hoccurs]
    exact hcontains

/-- The dates do not go back in a window in which the clocks are not put back. -/
theorem DatesAdvance.of_offsets (hnow : w.now.clock.Valid)
    (hoffsets : ∀ s t, w.since.seconds ≤ s → s ≤ t → t ≤ w.now.seconds →
      zone.offsetAt s ≤ zone.offsetAt t) : w.DatesAdvance zone := by
  intro s t hs ht hsince hst hlast
  have hle := DateTime.seconds_le_of_le ht hst
  have hoffset := hoffsets s.seconds t.seconds
    (DateTime.seconds_le_of_le hs (DateTime.le_of_lt hsince)) hle
    (DateTime.seconds_le_of_le hnow hlast)
  rw [Zone.day_toLocal, Zone.day_toLocal]
  refine Int.ediv_le_ediv (by decide) ?_
  simp only [Zone.shown]
  omega

/-- When the dates do not go back, no occurrence in the window is of a date after the
last. -/
theorem DatesAdvance.day_le (h : w.DatesAdvance zone) (hw : w.Proper)
    (hzone : zone.Regular) (htime : time.Valid) {day : Day} {t : DateTime}
    (hoccurs : zone.Occurs ⟨day, time⟩ t) (hcontains : w.contains t = true) :
    day ≤ (zone.toLocal w.now).day := by
  obtain ⟨hsince, hnow⟩ := contains_iff.1 hcontains
  have hshown : day ≤ (zone.toLocal t).day := hoccurs.day_le hzone htime
  exact Int.le_trans hshown
    (h t w.now (hoccurs.valid htime) hw.now hsince hnow (Int.le_refl _))

/-- **All occurrences.**  When the dates do not go back, a time of day is found in a
window if and only if it occurs in it. -/
theorem Proper.hasTime_iff_occurs (hw : w.Proper) (hzone : zone.Regular)
    (hdates : w.DatesAdvance zone) (htime : time.Valid)
    (hleap : time.nano < nanosPerSecond) :
    w.hasTime zone time = true ↔
      ∃ (day : Day) (t : DateTime), zone.Occurs ⟨day, time⟩ t ∧ w.contains t = true := by
  rw [hw.hasTime_iff hzone htime hleap]
  constructor
  · rintro ⟨day, t, -, hoccurs, hcontains⟩
    exact ⟨day, t, hoccurs, hcontains⟩
  · rintro ⟨day, t, hoccurs, hcontains⟩
    exact ⟨day, t, hdates.day_le hw hzone htime hoccurs hcontains, hoccurs, hcontains⟩

/-- An instant within a proper window parts it into two. -/
theorem Proper.part (hw : w.Proper) {mid : DateTime} (hmid : mid.clock.Valid)
    (hsince : w.since ≤ mid) (hnow : mid ≤ w.now) :
    Proper ⟨w.since, mid⟩ ∧ Proper ⟨mid, w.now⟩ := by
  have hearly : w.since.seconds / 86400 ≤ mid.seconds / 86400 :=
    Int.ediv_le_ediv (by decide) (DateTime.seconds_le_of_le hmid hsince)
  have hlate : mid.seconds / 86400 ≤ w.now.seconds / 86400 :=
    Int.ediv_le_ediv (by decide) (DateTime.seconds_le_of_le hw.now hnow)
  rw [← DateTime.day_eq hw.since, ← DateTime.day_eq hmid] at hearly
  rw [← DateTime.day_eq hmid, ← DateTime.day_eq hw.now] at hlate
  exact ⟨⟨hw.since, hmid, hsince, hw.early, Int.le_trans hlate hw.late⟩,
    ⟨hmid, hw.now, hnow, Int.le_trans hw.early hearly, hw.late⟩⟩

/-- The dates do not go back in a part of a window either. -/
theorem DatesAdvance.part (h : w.DatesAdvance zone) {mid : DateTime}
    (hsince : w.since ≤ mid) (hnow : mid ≤ w.now) :
    DatesAdvance ⟨w.since, mid⟩ zone ∧ DatesAdvance ⟨mid, w.now⟩ zone :=
  ⟨fun s t hs ht hfirst hst hlast => h s t hs ht hfirst hst (Int.le_trans hlast hnow),
    fun s t hs ht hfirst hst hlast =>
      h s t hs ht (Int.lt_of_le_of_lt hsince hfirst) hst hlast⟩

/-- What lies in a window lies in one of its parts. -/
theorem contains_part {t mid : DateTime} (hsince : w.since ≤ mid) (hnow : mid ≤ w.now) :
    w.contains t = true ↔
      (Window.mk w.since mid).contains t = true ∨
      (Window.mk mid w.now).contains t = true := by
  simp only [contains_iff]
  constructor
  · rintro ⟨hfirst, hlast⟩
    rcases Int.lt_or_le mid.rank t.rank with hlate | hearly
    · exact .inr ⟨hlate, hlast⟩
    · exact .inl ⟨hfirst, hearly⟩
  · rintro (⟨hfirst, hlast⟩ | ⟨hfirst, hlast⟩)
    · exact ⟨hfirst, Int.le_trans hlast hnow⟩
    · exact ⟨Int.lt_of_le_of_lt hsince hfirst, hlast⟩

/-- **Times of day in windows.**  For every regular zone, every time of day outside leap
seconds and every window away from the ends of the calendar:

* the time is found in the window if and only if it occurs in it on a date that is not
  after the one that the clocks show at its end;
* when the dates do not go back in the window, the time is found if and only if it
  occurs in it on any date, and if and only if it is found in one of the two windows
  into which an instant parts it. -/
theorem hasTime_regular (hzone : zone.Regular) (hw : w.Proper) (htime : time.Valid)
    (hleap : time.nano < nanosPerSecond) :
    (w.hasTime zone time = true ↔ ∃ (day : Day) (t : DateTime),
      day ≤ (zone.toLocal w.now).day ∧ zone.Occurs ⟨day, time⟩ t ∧ w.contains t = true) ∧
    (w.DatesAdvance zone →
      (w.hasTime zone time = true ↔
        ∃ (day : Day) (t : DateTime), zone.Occurs ⟨day, time⟩ t ∧ w.contains t = true) ∧
      ∀ mid : DateTime, mid.clock.Valid → w.since ≤ mid → mid ≤ w.now →
        (w.hasTime zone time = true ↔ (Window.mk w.since mid).hasTime zone time = true ∨
          (Window.mk mid w.now).hasTime zone time = true)) := by
  refine ⟨hw.hasTime_iff hzone htime hleap, fun hdates =>
    ⟨hw.hasTime_iff_occurs hzone hdates htime hleap, fun mid hmid hsince hnow => ?_⟩⟩
  obtain ⟨hproper, hproper'⟩ := hw.part hmid hsince hnow
  obtain ⟨hadvance, hadvance'⟩ := hdates.part hsince hnow
  rw [hw.hasTime_iff_occurs hzone hdates htime hleap,
    hproper.hasTime_iff_occurs hzone hadvance htime hleap,
    hproper'.hasTime_iff_occurs hzone hadvance' htime hleap]
  simp only [contains_part hsince hnow, and_or_left, exists_or]

/-! ## The clocks of Newfoundland -/

/-- The clocks of Newfoundland.  In 2010 summer time ended there a minute after
midnight. -/
def newfoundland : Zone :=
  ⟨"America/St_Johns", westward 3 30,
    [changeAt 2010 3 14 3 31 (westward 2 30), changeAt 2010 11 7 2 31 (westward 3 30),
      changeAt 2024 3 10 5 30 (westward 2 30), changeAt 2024 11 3 4 30 (westward 3 30)]⟩

/-- These clocks change twice a year, by an hour. -/
theorem newfoundland_regular : newfoundland.Regular :=
  ⟨by decide +kernel, by decide +kernel, by decide +kernel⟩

/-- An instant of a date. -/
def instantOf (date : Civil) (hour minute second : Nat) : DateTime :=
  ⟨date.toDay, ⟨hour * 3600 + minute * 60 + second, 0⟩⟩

/-- Two hours in which the clocks are put forward over half past two. -/
def spring : Window := ⟨instantOf ⟨2024, 3, 10⟩ 5 0 0, instantOf ⟨2024, 3, 10⟩ 7 0 0⟩

theorem spring_proper : spring.Proper :=
  ⟨⟨by decide, by decide⟩, ⟨by decide, by decide⟩, by decide +kernel, by decide +kernel,
    by decide +kernel⟩

/-- Clocks that are put forward do not go back to an earlier date. -/
theorem spring_datesAdvance : spring.DatesAdvance newfoundland := by
  refine .of_offsets spring_proper.now fun s t hsince hst hnow => ?_
  have hchanges : newfoundland.changes =
      [(1268537460, -9000), (1289097060, -12600), (1710048600, -9000),
        (1730608200, -12600)] := by
    decide +kernel
  have hstart : spring.since.seconds = 1710046800 := by decide +kernel
  have hend : spring.now.seconds = 1710054000 := by decide +kernel
  rw [hstart] at hsince
  rw [hend] at hnow
  simp only [Zone.offsetAt, hchanges, Zone.offsetFrom]
  split_ifs <;> omega

/-- Half past two is left out on the day on which the clocks are put forward.  It occurs
when the old offset would have shown it, in the first half of the window. -/
theorem hasTime_regular_newfoundland :
    spring.DatesAdvance newfoundland ∧
    (∃ (day : Day) (t : DateTime), newfoundland.Occurs ⟨day, ⟨9000, 0⟩⟩ t ∧
      spring.contains t = true) ∧
    (Window.mk (instantOf ⟨2024, 3, 10⟩ 6 0 0) spring.now).hasTime newfoundland
      ⟨9000, 0⟩ = false ∧
    (Window.mk spring.since (instantOf ⟨2024, 3, 10⟩ 6 0 0)).hasTime newfoundland
      ⟨9000, 0⟩ = true := by
  have hfound : spring.hasTime newfoundland ⟨9000, 0⟩ = true := by decide +kernel
  have hlate : (Window.mk (instantOf ⟨2024, 3, 10⟩ 6 0 0) spring.now).hasTime
    newfoundland ⟨9000, 0⟩ =
      false := by decide +kernel
  have htime : Clock.Valid ⟨9000, 0⟩ := ⟨by decide, by decide⟩
  obtain ⟨hoccurs, hparts⟩ :=
    (hasTime_regular newfoundland_regular spring_proper htime (by decide)).2
      spring_datesAdvance
  have hpart :=
    (hparts (instantOf ⟨2024, 3, 10⟩ 6 0 0) ⟨by decide, by decide⟩ (by decide +kernel)
      (by decide +kernel)).1 hfound
  exact ⟨spring_datesAdvance, hoccurs.1 hfound, hlate,
    hpart.resolve_right (by simp [hlate])⟩

/-- The window of ninety seconds in which the clocks were put back over midnight. -/
def autumn : Window := ⟨instantOf ⟨2010, 11, 7⟩ 2 30 0, instantOf ⟨2010, 11, 7⟩ 2 31 30⟩

/-- **A missed occurrence.**  Half a minute past midnight occurs in the window, and is
found in the first half of it, but not in the whole: at its end the clocks show the day
before. -/
theorem hasTime_newfoundland :
    autumn.Proper ∧
    newfoundland.Occurs (instantOf ⟨2010, 11, 7⟩ 0 0 30)
      (instantOf ⟨2010, 11, 7⟩ 2 30 30) ∧
    autumn.contains (instantOf ⟨2010, 11, 7⟩ 2 30 30) = true ∧
    autumn.hasTime newfoundland ⟨30, 0⟩ = false ∧
    (Window.mk autumn.since (instantOf ⟨2010, 11, 7⟩ 2 30 45)).hasTime newfoundland
      ⟨30, 0⟩ = true := by
  have hproper : autumn.Proper :=
    ⟨⟨by decide, by decide⟩, ⟨by decide, by decide⟩, by decide +kernel, by decide +kernel,
      by decide +kernel⟩
  have hoccurs : newfoundland.Occurs (instantOf ⟨2010, 11, 7⟩ 0 0 30)
      (instantOf ⟨2010, 11, 7⟩ 2 30 30) :=
    (newfoundland_regular.occurrence?_eq_some ⟨by decide, by decide⟩ (by decide)
      (by decide +kernel)
      (by decide +kernel)).1 (by decide +kernel)
  exact ⟨hproper, hoccurs, by decide +kernel, by decide +kernel, by decide +kernel⟩

end Window

end Turnstile.Time
