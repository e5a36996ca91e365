/-!
# The calendar

Days are counted from 1 January 1970 in the Gregorian calendar, extended to all years.
Only days between `firstDay` and `lastDay` can be represented; `ofCivil?` refuses dates
that do not exist.
-/

set_option autoImplicit false

namespace Turnstile.Time

/-- A date: the number of days since 1 January 1970. -/
abbrev Day := Int

/-- A date as year, month and day of the month. -/
structure Civil where
  year : Int
  month : Nat
  day : Nat
deriving DecidableEq, Repr

/-- Leap years have a 29 February. -/
def isLeapYear (year : Int) : Bool :=
  year.emod 4 == 0 && (year.emod 100 != 0 || year.emod 400 == 0)

/-- The number of days of a month. -/
def monthLength (year : Int) (month : Nat) : Nat :=
  if month = 2 then (if isLeapYear year then 29 else 28)
  else if month = 4 ∨ month = 6 ∨ month = 9 ∨ month = 11 then 30
  else 31

/-- The day of a civil date.  Years are counted from 1 March, so that the leap day comes
last. -/
def Civil.toDay (date : Civil) : Day :=
  let year : Int := if date.month ≤ 2 then date.year - 1 else date.year
  let era := year.fdiv 400
  let yearOfEra := year - era * 400
  let month : Int := (date.month + 9) % 12
  let dayOfYear : Int := (153 * month + 2) / 5 + date.day - 1
  let dayOfEra := yearOfEra * 365 + yearOfEra / 4 - yearOfEra / 100 + dayOfYear
  era * 146097 + dayOfEra - 719468

/-- The civil date of a day. -/
def Civil.ofDay (day : Day) : Civil :=
  let z := day + 719468
  let era := z.fdiv 146097
  let dayOfEra := z - era * 146097
  let yearOfEra :=
    (dayOfEra - dayOfEra / 1460 + dayOfEra / 36524 - dayOfEra / 146096) / 365
  let dayOfYear := dayOfEra - (365 * yearOfEra + yearOfEra / 4 - yearOfEra / 100)
  let monthFromMarch := (5 * dayOfYear + 2) / 153
  let dayOfMonth := dayOfYear - (153 * monthFromMarch + 2) / 5 + 1
  let month := if monthFromMarch < 10 then monthFromMarch + 3 else monthFromMarch - 9
  let year := yearOfEra + era * 400 + (if month ≤ 2 then 1 else 0)
  ⟨year, month.toNat, dayOfMonth.toNat⟩

/-- The first day that can be represented: 1 January of the year -262143. -/
def firstDay : Day := Civil.toDay ⟨-262143, 1, 1⟩

/-- The last day that can be represented: 31 December of the year 262142. -/
def lastDay : Day := Civil.toDay ⟨262142, 12, 31⟩

/-- Whether a day can be represented. -/
def Day.inCalendar (day : Day) : Bool := firstDay ≤ day && day ≤ lastDay

/-- The day of a civil date, if the date exists and can be represented. -/
def Civil.day? (date : Civil) : Option Day :=
  if 1 ≤ date.month ∧ date.month ≤ 12 ∧ 1 ≤ date.day ∧
    date.day ≤ monthLength date.year date.month
      ∧ -262143 ≤ date.year ∧ date.year ≤ 262142 then
    some date.toDay
  else none

end Turnstile.Time
