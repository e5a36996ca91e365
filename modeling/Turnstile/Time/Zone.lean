import Turnstile.Time.DateTime

/-!
# Time zones

A zone is an offset from UTC that changes at listed instants.  A reading of the local
clocks can belong to one instant, to several (clocks went back) or to none (clocks went
forward over it).  Which zones there are, and when their offsets change, is up to
whoever asks.

* `Zone.toLocal` is what the clocks show at an instant.
* `Zone.readings` lists the instants that show a reading, in the order of the zone's
  offsets.
* `Zone.occurrence?` picks one: the first of those, or, for a skipped reading, the
  instant at which the offset of the day before would have shown it.
-/

set_option autoImplicit false

namespace Turnstile.Time

/-- A time zone: its offset in seconds east of UTC, and the later offsets with the
instants, in seconds since 1970, from which they hold. -/
structure Zone where
  name : String
  base : Int
  changes : List (Int × Int)
deriving DecidableEq, Repr

/-- An offset of hours and minutes east of UTC. -/
def eastward (hours minutes : Nat) : Int := hours * 3600 + minutes * 60

/-- An offset of hours and minutes west of UTC. -/
def westward (hours minutes : Nat) : Int := -eastward hours minutes

/-- A change to an offset at an instant given in UTC. -/
def changeAt (year : Int) (month day hour minute : Nat) (offset : Int) : Int × Int :=
  (Civil.toDay ⟨year, month, day⟩ * 86400 + hour * 3600 + minute * 60, offset)

namespace Zone

/-- Universal time. -/
def utc : Zone := ⟨"UTC", 0, []⟩

/-- The zone of a name; names are case-sensitive. -/
def named? (zones : List Zone) (name : String) : Option Zone :=
  zones.find? fun zone => zone.name = name

/-- The offset in force at a second, when `current` holds before the first change. -/
def offsetFrom (current : Int) : List (Int × Int) → Int → Int
  | [], _ => current
  | (start, offset) :: rest, s => if s < start then current else offsetFrom offset rest s

/-- The offset in force at a second. -/
def offsetAt (zone : Zone) (s : Int) : Int := offsetFrom zone.base zone.changes s

/-- What the clocks of the zone show at an instant. -/
def toLocal (zone : Zone) (t : DateTime) : DateTime := t.shift (zone.offsetAt t.seconds)

/-- A stretch of time with one offset: from `start?` on, and before `stop?`. -/
structure Stretch where
  start? : Option Int
  stop? : Option Int
  offset : Int

/-- The stretches of a zone in order of time. -/
def stretchesFrom (start? : Option Int) (current : Int) : List (Int × Int) → List Stretch
  | [] => [⟨start?, none, current⟩]
  | (next, offset) :: rest =>
      ⟨start?, some next, current⟩ :: stretchesFrom (some next) offset rest

/-- Whether the clocks show the local second `s` during a stretch. -/
def Stretch.shows (stretch : Stretch) (s : Int) : Bool :=
  (match stretch.start? with
    | some start => start ≤ s - stretch.offset
    | none => true) &&
  (match stretch.stop? with
    | some stop => s - stretch.offset < stop
    | none => true)

/-- The offsets under which the clocks show the local second `s`, in order of time. -/
def offsetsShowing (zone : Zone) (s : Int) : List Int :=
  ((stretchesFrom none zone.base zone.changes).filter (·.shows s)).map (·.offset)

/-- The instants at which the clocks show a reading. -/
def readings (zone : Zone) (reading : DateTime) : List DateTime :=
  (zone.offsetsShowing reading.seconds).map fun offset => reading.shift (-offset)

/-- Nanoseconds of whole seconds. -/
def nanosOfSeconds (seconds : Int) : Int := seconds * (nanosPerSecond : Int)

/-- The instant that counts as the occurrence of a reading. -/
def occurrence? (zone : Zone) (reading : DateTime) : Option DateTime :=
  match zone.readings reading with
  | instant :: _ => some instant
  | [] => do
    let before ← reading.add? (nanosOfSeconds (-86400))
    let offset ← (zone.offsetsShowing before.seconds).head?
    reading.add? (nanosOfSeconds (-offset))

end Zone

end Turnstile.Time
