import Turnstile.Time.Span

/-!
# Times of day

A time of day is a second of the day with nanoseconds.  A leap second is written as the
nanoseconds from `10 ^ 9` on of the second before it, so `23:59:60` is a part of the
last second of its day.
-/

set_option autoImplicit false

namespace Turnstile.Time

/-- A time of day. -/
structure Clock where
  second : Nat
  nano : Nat
deriving DecidableEq, Repr

namespace Clock

/-- Seconds of a day. -/
def secondsPerDay : Nat := 86400

/-- Whether the time lies within a leap second. -/
def isLeap (c : Clock) : Bool := nanosPerSecond ≤ c.nano

/-- Whether seconds and nanoseconds are in range. -/
def Valid (c : Clock) : Prop := c.second < secondsPerDay ∧ c.nano < 2 * nanosPerSecond

/-- Position on the day, leap seconds included, for comparison. -/
def rank (c : Clock) : Nat := c.second * (2 * nanosPerSecond) + c.nano

/-- The time of day of hour, minute, second and nanoseconds; second 60 is a leap
second. -/
def ofParts? (hour minute second nano : Nat) : Option Clock :=
  if hour < 24 ∧ minute < 60 ∧ second ≤ 60 ∧ nano < nanosPerSecond then
    if second = 60 then some ⟨hour * 3600 + minute * 60 + 59, nanosPerSecond + nano⟩
    else some ⟨hour * 3600 + minute * 60 + second, nano⟩
  else none

/-- A fraction of a second with 0, 3, 6 or 9 digits, as few as are exact. -/
def fractionText (nano : Nat) : List Char :=
  if nano = 0 then []
  else if nano % 1000000 = 0 then '.' :: Span.padded 3 (nano / 1000000)
  else if nano % 1000 = 0 then '.' :: Span.padded 6 (nano / 1000)
  else '.' :: Span.padded 9 nano

/-- Hours, minutes and seconds with a given way to write the fraction. -/
def textWith (fraction : Nat → List Char) (c : Clock) : List Char :=
  let extra := if c.isLeap then 1 else 0
  let nano := if c.isLeap then c.nano - nanosPerSecond else c.nano
  Span.padded 2 (c.second / 3600) ++ ':' :: Span.padded 2 (c.second / 60 % 60) ++
    ':' :: Span.padded 2 (c.second % 60 + extra) ++ fraction nano

/-- The text `HH:MM:SS[.fraction]` of a time of day. -/
def text (c : Clock) : String := String.ofList (c.textWith fractionText)

/-- The difference `a - b` of two times of one day, in nanoseconds.  A leap second
between the two counts. -/
def difference (a b : Clock) : Int :=
  let seconds : Int := (a.second : Int) - b.second
  let leap : Int :=
    if a.second > b.second ∧ b.isLeap then 1
    else if a.second < b.second ∧ a.isLeap then -1
    else 0
  (seconds + leap) * nanosPerSecond + ((a.nano : Int) - b.nano)

/-- Move a time by a number of nanoseconds; the second part counts the days passed.  A
leap second is kept only as long as the time stays within it. -/
def advance (c : Clock) (delta : Int) : Clock × Int :=
  let second : Int := 1000000000
  let wholeSeconds := delta.tdiv second
  let part := delta.tmod second
  let settle (seconds fraction : Int) : Clock × Int :=
    let total := seconds + fraction.fdiv second
    (⟨(total.emod secondsPerDay).toNat, (fraction.emod second).toNat⟩,
      total.fdiv secondsPerDay)
  let seconds : Int := c.second
  let nano : Int := c.nano
  if c.isLeap then
    if wholeSeconds > 0 ∨ (part > 0 ∧ nano + part ≥ 2 * second) then
      settle (seconds + wholeSeconds) (nano - second + part)
    else if wholeSeconds < 0 then
      settle (seconds + 1 + wholeSeconds) (nano - second + part)
    else (⟨c.second, (nano + part).toNat⟩, 0)
  else settle (seconds + wholeSeconds) (nano + part)

end Clock

end Turnstile.Time
