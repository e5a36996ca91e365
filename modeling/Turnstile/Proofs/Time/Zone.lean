import Turnstile.Proofs.Time.DateTime
import Turnstile.Time.Zone

/-!
# What the clocks of a zone show

At every second the clocks of a zone show a local second (`Zone.shown`).  Where
they are put back they show some local seconds again, where they are put forward
they leave some out.

* `Zone.offsetsShowing_head?` : the offsets that `Zone.offsetsShowing` lists begin with
  the one of the first second that shows a reading.
* `Zone.Regular` : clocks that are changed by at most a day, and not twice within two
  days.  Of them it is proved that a day makes up for what they are put back
  (`Regular.shown_lt`), and that a reading that they leave out is left out by one
  change, before which a reading of the day before is shown first under the old offset
  (`Regular.dayBefore`).
-/

set_option autoImplicit false

namespace Turnstile.Time.Zone

variable {zone : Zone} {current : Int} {changes : List (Int × Int)}

/-- The local second that the clocks show at a second. -/
def shown (zone : Zone) (s : Int) : Int := s + zone.offsetAt s

/-- The changes are listed in the order of time. -/
def Ordered (zone : Zone) : Prop :=
  zone.changes.Pairwise fun earlier later => earlier.1 < later.1

/-- Clocks that are changed by at most a day, and not twice within two days. -/
structure Regular (zone : Zone) : Prop where
  apart : zone.changes.Pairwise fun earlier later => earlier.1 + 172800 ≤ later.1
  modest : (zone.base :: zone.changes.map Prod.snd).IsChain fun old new =>
    old - new ≤ 86400 ∧ new - old ≤ 86400
  bounded : ∀ offset ∈ zone.base :: zone.changes.map Prod.snd, -86400 < offset ∧
    offset < 86400

/-- The changes of a regular zone come in order of time. -/
theorem Regular.ordered (h : zone.Regular) : zone.Ordered :=
  h.apart.imp fun hapart => by omega

/-! ## Offsets -/

/-- The first change decides whether the offset is still the one before it. -/
theorem offsetFrom_cons (current start offset : Int) (rest : List (Int × Int)) (s : Int) :
    offsetFrom current ((start, offset) :: rest) s =
      if s < start then current else offsetFrom offset rest s := rfl

/-- Before the first change the first offset holds. -/
theorem offsetFrom_of_lt {s : Int} (h : ∀ change ∈ changes, s < change.1) :
    offsetFrom current changes s = current := by
  cases changes with
  | nil => rfl
  | cons change rest => exact if_pos (h change List.mem_cons_self)

/-- Only listed offsets hold. -/
theorem offsetFrom_mem (s : Int) :
    offsetFrom current changes s ∈ current :: changes.map Prod.snd := by
  induction changes generalizing current with
  | nil => exact List.mem_cons_self
  | cons change rest ih =>
    obtain ⟨start, offset⟩ := change
    rw [offsetFrom_cons]
    split
    · exact List.mem_cons_self
    · exact List.mem_cons_of_mem _ ih

/-- **Calm.**  In two days the offset changes once at most. -/
theorem offsetFrom_calm
    (hapart : changes.Pairwise fun earlier later => earlier.1 + 172800 ≤ later.1)
    {u v w : Int} (huv : u ≤ v) (hvw : v ≤ w) (hnear : w ≤ u + 172800) :
    offsetFrom current changes v = offsetFrom current changes u ∨
      offsetFrom current changes v = offsetFrom current changes w := by
  induction changes generalizing current with
  | nil => exact .inl rfl
  | cons change rest ih =>
    obtain ⟨start, offset⟩ := change
    obtain ⟨hlater, hrest⟩ := List.pairwise_cons.1 hapart
    simp only [offsetFrom_cons]
    by_cases hw : w < start
    · rw [if_pos (by omega), if_pos (by omega)]
      exact .inl rfl
    by_cases hu : start ≤ u
    · rw [if_neg (by omega), if_neg (by omega), if_neg (by omega)]
      exact ih hrest
    -- the change is the only one between `u` and `w`
    have hafter : ∀ s, s ≤ w → offsetFrom offset rest s = offset := fun s hs =>
      offsetFrom_of_lt fun later hin => by
        have hlate := hlater later hin
        omega
    by_cases hv : v < start
    · rw [if_pos hv, if_pos (by omega)]
      exact .inl rfl
    · rw [if_neg hv, if_neg hw, hafter v hvw, hafter w (Int.le_refl w)]
      exact .inr rfl

/-- **Steady.**  In two days the offset changes by a day at most. -/
theorem offsetFrom_steady
    (hapart : changes.Pairwise fun earlier later => earlier.1 + 172800 ≤ later.1)
    (hmodest : (current :: changes.map Prod.snd).IsChain fun old new =>
      old - new ≤ 86400 ∧ new - old ≤ 86400)
    {u v : Int} (huv : u ≤ v) (hnear : v ≤ u + 172800) :
    offsetFrom current changes u - offsetFrom current changes v ≤ 86400 ∧
      offsetFrom current changes v - offsetFrom current changes u ≤ 86400 := by
  induction changes generalizing current with
  | nil => simp [offsetFrom]
  | cons change rest ih =>
    obtain ⟨start, offset⟩ := change
    obtain ⟨hlater, hrest⟩ := List.pairwise_cons.1 hapart
    obtain ⟨hchange, hmodest⟩ := List.isChain_cons_cons.1 hmodest
    simp only [offsetFrom_cons]
    by_cases hv : v < start
    · rw [if_pos hv, if_pos (by omega)]
      omega
    by_cases hu : start ≤ u
    · rw [if_neg (by omega), if_neg hv]
      exact ih hrest hmodest
    · rw [if_pos (by omega), if_neg hv, offsetFrom_of_lt fun later hin => by
        have hlate := hlater later hin
        omega]
      exact hchange

/-! ## Readings that are shown -/

/-- A stretch shows a reading that falls between its ends by its own offset. -/
theorem Stretch.shows_iff {stretch : Stretch} {r : Int} : stretch.shows r = true ↔
    (∀ start ∈ stretch.start?, start ≤ r - stretch.offset) ∧
      ∀ stop ∈ stretch.stop?, r - stretch.offset < stop := by
  obtain ⟨start?, stop?, offset⟩ := stretch
  cases start? <;> cases stop? <;> simp [Stretch.shows]

/-- The offsets of the stretches that show a local second. -/
def showingFrom (start? : Option Int) (current : Int) (changes : List (Int × Int))
    (r : Int) : List Int :=
  ((stretchesFrom start? current changes).filter (·.shows r)).map (·.offset)

/-- After the last change only the last offset shows a reading. -/
theorem mem_showingFrom_nil {start? : Option Int} {o r : Int} :
    o ∈ showingFrom start? current [] r ↔
    o = current ∧ ∀ start ∈ start?, start ≤ r - current := by
  simp only [showingFrom, stretchesFrom, List.mem_map, List.mem_filter,
    List.mem_singleton, Stretch.shows_iff]
  constructor
  · rintro ⟨_, ⟨rfl, hstart, -⟩, rfl⟩
    exact ⟨rfl, hstart⟩
  · rintro ⟨rfl, hstart⟩
    exact ⟨_, ⟨rfl, hstart, by simp⟩, rfl⟩

/-- A reading is shown before the next change, or by a later offset. -/
theorem mem_showingFrom_cons {start? : Option Int} {next offset o r : Int}
    {rest : List (Int × Int)} :
    o ∈ showingFrom start? current ((next, offset) :: rest) r ↔
      (o = current ∧ (∀ start ∈ start?, start ≤ r - current) ∧ r - current < next) ∨
        o ∈ showingFrom (some next) offset rest r := by
  simp only [showingFrom, stretchesFrom, List.mem_map, List.mem_filter, List.mem_cons,
    Stretch.shows_iff]
  constructor
  · rintro ⟨_, ⟨rfl | hin, hshows⟩, rfl⟩
    · exact .inl ⟨rfl, hshows.1, hshows.2 next rfl⟩
    · exact .inr ⟨_, ⟨hin, hshows⟩, rfl⟩
  · rintro (⟨rfl, hstart, hstop⟩ | ⟨stretch, ⟨hin, hshows⟩, rfl⟩)
    · exact ⟨_, ⟨.inl rfl, hstart, by simpa using hstop⟩, rfl⟩
    · exact ⟨stretch, ⟨.inr hin, hshows⟩, rfl⟩

/-- The offsets of the stretches that show a local second are those in force when it is
shown. -/
theorem mem_showingFrom {start? : Option Int} {o r : Int}
    (hordered : changes.Pairwise fun earlier later => earlier.1 < later.1)
    (hstart : ∀ start ∈ start?, ∀ change ∈ changes, start < change.1) :
    o ∈ showingFrom start? current changes r ↔
      (∀ start ∈ start?, start ≤ r - o) ∧ offsetFrom current changes (r - o) = o := by
  induction changes generalizing current start? with
  | nil =>
    rw [mem_showingFrom_nil]
    constructor
    · rintro ⟨rfl, hfrom⟩
      exact ⟨hfrom, rfl⟩
    · rintro ⟨hfrom, hoffset⟩
      obtain rfl : current = o := hoffset
      exact ⟨rfl, hfrom⟩
  | cons change rest ih =>
    obtain ⟨next, offset⟩ := change
    obtain ⟨hlater, hrest⟩ := List.pairwise_cons.1 hordered
    rw [mem_showingFrom_cons, ih hrest (by simpa using hlater), offsetFrom_cons]
    constructor
    · rintro (⟨rfl, hfrom, hbefore⟩ | ⟨hfrom, hoffset⟩)
      · exact ⟨hfrom, if_pos hbefore⟩
      · have hnext : next ≤ r - o := hfrom next rfl
        refine ⟨fun start hin => ?_, (if_neg (by omega)).trans hoffset⟩
        have hfirst := hstart start hin _ List.mem_cons_self
        omega
    · rintro ⟨hfrom, hoffset⟩
      split at hoffset
      next hbefore =>
        subst hoffset
        exact .inl ⟨rfl, hfrom, hbefore⟩
      next hafter =>
        refine .inr ⟨?_, hoffset⟩
        rintro _ ⟨⟩
        omega

/-- Earlier stretches that show a local second have greater offsets. -/
theorem pairwise_showingFrom {start? : Option Int} {r : Int}
    (hordered : changes.Pairwise fun earlier later => earlier.1 < later.1) :
    (showingFrom start? current changes r).Pairwise fun earlier later =>
      later < earlier := by
  induction changes generalizing current start? with
  | nil => exact (List.pairwise_singleton _ _).sublist ((List.filter_sublist).map _)
  | cons change rest ih =>
    obtain ⟨next, offset⟩ := change
    obtain ⟨hlater, hrest⟩ := List.pairwise_cons.1 hordered
    rw [showingFrom, stretchesFrom, List.filter_cons]
    split
    next hshows =>
      refine List.pairwise_cons.2 ⟨fun o ho => ?_, ih hrest⟩
      have hbefore := (Stretch.shows_iff.1 hshows).2 next rfl
      have hafter := ((mem_showingFrom hrest (by simpa using hlater)).1 ho).1 next rfl
      simp only at hbefore ⊢
      omega
    next => exact ih hrest

/-- The listed offsets are those under which the reading is shown. -/
theorem mem_offsetsShowing (hordered : zone.Ordered) {o r : Int} :
    o ∈ zone.offsetsShowing r ↔ zone.shown (r - o) = r := by
  have hmem : o ∈ showingFrom none zone.base zone.changes r ↔ _ :=
    mem_showingFrom hordered (by rintro _ ⟨⟩)
  refine hmem.trans ⟨fun h => ?_, fun h => ⟨by rintro _ ⟨⟩, ?_⟩⟩
  · rw [shown, offsetAt, h.2]
    omega
  · rw [shown, offsetAt] at h
    omega

/-- **Readings that are shown.**  The listed offsets begin with that of the first second
that shows the reading. -/
theorem offsetsShowing_head? (hordered : zone.Ordered) {o r : Int} :
    (zone.offsetsShowing r).head? = some o ↔
      zone.shown (r - o) = r ∧ ∀ s, zone.shown s = r → r - o ≤ s := by
  have hin : ∀ s, zone.shown s = r → r - s ∈ zone.offsetsShowing r := by
    intro s hs
    rw [mem_offsetsShowing hordered, Int.sub_sub_self]
    exact hs
  have hsorted : (zone.offsetsShowing r).Pairwise fun earlier later => later < earlier :=
    pairwise_showingFrom hordered
  constructor
  · intro hhead
    obtain ⟨rest, hlist⟩ := List.head?_eq_some_iff.1 hhead
    rw [hlist] at hsorted hin
    have hshown : zone.shown (r - o) = r :=
      (mem_offsetsShowing hordered).1 (hlist ▸ List.mem_cons_self)
    refine ⟨hshown, fun s hs => ?_⟩
    rcases List.mem_cons.1 (hin s hs) with hfirst | hlater
    · omega
    · have hless := (List.pairwise_cons.1 hsorted).1 _ hlater
      omega
  · rintro ⟨hshown, hfirst⟩
    have ho : o ∈ zone.offsetsShowing r := (mem_offsetsShowing hordered).2 hshown
    cases hlist : zone.offsetsShowing r with
    | nil => rw [hlist] at ho; cases ho
    | cons head rest =>
      have hhead : head ∈ zone.offsetsShowing r := hlist ▸ List.mem_cons_self
      have hnot := hfirst _ ((mem_offsetsShowing hordered).1 hhead)
      rw [hlist] at ho hsorted
      rcases List.mem_cons.1 ho with rfl | hlater
      · rfl
      · have hless := (List.pairwise_cons.1 hsorted).1 _ hlater
        omega

/-- A reading for which no offset is listed is never shown. -/
theorem offsetsShowing_eq_nil (hordered : zone.Ordered) {r : Int} :
    zone.offsetsShowing r = [] ↔ ∀ s, zone.shown s ≠ r := by
  rw [List.eq_nil_iff_forall_not_mem]
  constructor
  · intro h s hs
    refine h (r - s) ((mem_offsetsShowing hordered).2 ?_)
    rwa [Int.sub_sub_self]
  · exact fun h o ho => h _ ((mem_offsetsShowing hordered).1 ho)

/-! ## Regular clocks -/

/-- A function that comes from below a value to it, without taking it, leaps over it at
some step. -/
theorem exists_leap {f : Int → Int} {r first : Int} (hfirst : f first < r) (steps : Nat)
    (hlast : r ≤ f (first + steps)) : ∃ s, first < s ∧ f (s - 1) < r ∧ r ≤ f s := by
  induction steps with
  | zero =>
    rw [Int.natCast_zero, Int.add_zero] at hlast
    omega
  | succ steps ih =>
    by_cases hbefore : r ≤ f (first + steps)
    · exact ih hbefore
    · refine ⟨first + (steps + 1 : Nat), by omega, ?_, hlast⟩
      rw [show first + ((steps + 1 : Nat) : Int) - 1 = first + steps by omega]
      omega

namespace Regular

variable {u v w r : Int}

/-- A regular zone is less than a day away from UTC. -/
theorem offset_bounded (h : zone.Regular) (s : Int) :
    -86400 < zone.offsetAt s ∧ zone.offsetAt s < 86400 := h.bounded _ (offsetFrom_mem s)

/-- Within two days the clocks change once at most. -/
theorem calm (h : zone.Regular) (huv : u ≤ v) (hvw : v ≤ w) (hnear : w ≤ u + 172800) :
    zone.offsetAt v = zone.offsetAt u ∨ zone.offsetAt v = zone.offsetAt w :=
  offsetFrom_calm h.apart huv hvw hnear

/-- Within two days the offset changes by a day at most. -/
theorem steady (h : zone.Regular) (huv : u ≤ v) (hnear : v ≤ u + 172800) :
    zone.offsetAt u - zone.offsetAt v ≤ 86400 ∧
    zone.offsetAt v - zone.offsetAt u ≤ 86400 :=
  offsetFrom_steady h.apart h.modest huv hnear

/-- **A day makes up for what clocks are put back.** -/
theorem shown_lt (h : zone.Regular) (hlater : u + 86400 < v) :
    zone.shown u < zone.shown v := by
  obtain ⟨days, hdays⟩ : ∃ days : Nat, v ≤ u + 86400 + 86400 * days :=
    ⟨(v - u).toNat, by omega⟩
  induction days generalizing u with
  | zero => omega
  | succ days ih =>
    by_cases hnear : v ≤ u + 172800
    · have hsteady := h.steady (u := u) (by omega) hnear
      simp only [shown]
      omega
    · -- a day after `u` the clocks show no earlier reading than at `u`
      have hday := h.steady (u := u) (v := u + 86400) (by omega) (by omega)
      have hrest := ih (u := u + 86400) (by omega) (by omega)
      simp only [shown] at hrest ⊢
      omega

/-- In no later second the clocks show a local second that is more than a day earlier. -/
theorem shown_le (h : zone.Regular) (hlater : u ≤ v) :
    zone.shown u ≤ zone.shown v + 86400 := by
  by_cases hday : u + 86400 < v
  · have hlt := h.shown_lt hday
    omega
  · have hsteady := h.steady hlater (by omega)
    simp only [shown]
    omega

/-- A reading that is never shown is left out by a change. -/
theorem exists_change (h : zone.Regular) (hnever : ∀ s, zone.shown s ≠ r) :
    ∃ change, change + zone.offsetAt (change - 1) ≤ r ∧
      r < change + zone.offsetAt change := by
  -- offsets are less than a day, so the clocks come from below the reading to above it
  -- in two days
  have hfirst : zone.shown (r - 86400) < r := by
    have hbound := h.offset_bounded (r - 86400)
    simp only [shown]
    omega
  have hlast : r ≤ zone.shown (r - 86400 + (172800 : Nat)) := by
    have hbound := h.offset_bounded (r - 86400 + (172800 : Nat))
    simp only [shown]
    omega
  obtain ⟨change, -, hbefore, hafter⟩ := exists_leap hfirst 172800 hlast
  have hnot := hnever change
  simp only [shown] at hbefore hafter hnot
  exact ⟨change, by omega, by omega⟩

/-- After a change that leaves a reading out, the reading would be shown within a day
under the old offset, and the new offset holds then. -/
theorem offset_after (h : zone.Regular) {change : Int}
    (hbefore : change + zone.offsetAt (change - 1) ≤ r)
    (hafter : r < change + zone.offsetAt change)
    {s : Int} (hs : change ≤ s) (hnear : s ≤ r - zone.offsetAt (change - 1)) :
    zone.offsetAt s = zone.offsetAt change := by
  have hsteady := h.steady (u := change - 1) (v := change) (by omega) (by omega)
  have hcalm := h.calm (u := change - 1) (v := change) (w := s) (by omega) hs (by omega)
  omega

/-- **The day before.**  A day before a reading that is left out, its time of day is
shown first under the old offset. -/
theorem dayBefore (h : zone.Regular) {change : Int}
    (hbefore : change + zone.offsetAt (change - 1) ≤ r)
    (hafter : r < change + zone.offsetAt change) :
    (zone.offsetsShowing (r - 86400)).head? = some (zone.offsetAt (change - 1)) := by
  rw [offsetsShowing_head? h.ordered]
  have hsteady := h.steady (u := change - 1) (v := change) (by omega) (by omega)
  have hold :=
    h.calm (u := r - 86400 - zone.offsetAt (change - 1)) (v := change - 1) (w := change)
      (by omega) (by omega) (by omega)
  have hshown : zone.shown (r - 86400 - zone.offsetAt (change - 1)) = r - 86400 := by
    simp only [shown]
    omega
  refine ⟨hshown, fun s hs => ?_⟩
  by_contra hearlier
  -- an earlier second that shows it is less than a day earlier, so the old offset held
  -- then too
  have hday : ¬ s + 86400 < r - 86400 - zone.offsetAt (change - 1) := fun hfar => by
    have hlt := h.shown_lt hfar
    omega
  have hsame :=
    h.calm (u := s) (v := change - 1) (w := change) (by omega) (by omega) (by omega)
  simp only [shown] at hs
  omega

end Regular

end Turnstile.Time.Zone
