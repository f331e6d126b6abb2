/-!
# Dates and times of day

Dates of the Gregorian calendar from year 1 to 9999 and times of day to the microsecond. The
bounds are part of the types, so a date or time that exists is valid. Dates are also given by
year, week and day of the week: week 1 is the week from Monday to Sunday that holds the first
Thursday of the year.
-/

namespace CloudEvents.Time

/-- Whether a year has 366 days. -/
def isLeap (year : Nat) : Bool := year % 4 == 0 && (year % 100 != 0 || year % 400 == 0)

/-- The number of days of a month, zero for a month that does not exist. -/
def daysInMonth (year month : Nat) : Nat :=
  match month with
  | 1 | 3 | 5 | 7 | 8 | 10 | 12 => 31
  | 4 | 6 | 9 | 11 => 30
  | 2 => if isLeap year then 29 else 28
  | _ => 0

/-- The number of days of a year. -/
def daysInYear (year : Nat) : Nat := if isLeap year then 366 else 365

/-- A date. -/
structure Date where
  /-- The year. -/
  year : Nat
  /-- The month, from 1. -/
  month : Nat
  /-- The day of the month, from 1. -/
  day : Nat
  /-- The years run from 1 to 9999. -/
  year_bounds : 1 ≤ year ∧ year ≤ 9999
  /-- The months run from 1 to 12. -/
  month_bounds : 1 ≤ month ∧ month ≤ 12
  /-- The days run from 1 to the last day of the month. -/
  day_bounds : 1 ≤ day ∧ day ≤ daysInMonth year month
  deriving DecidableEq

/-- The date with a year, month and day, if there is one. -/
def Date.of? (year month day : Nat) : Option Date :=
  if h : (1 ≤ year ∧ year ≤ 9999) ∧ (1 ≤ month ∧ month ≤ 12) ∧
      1 ≤ day ∧ day ≤ daysInMonth year month then
    some ⟨year, month, day, h.1, h.2.1, h.2.2⟩
  else none

/-- A time of day. -/
structure Clock where
  /-- The hour. -/
  hour : Nat
  /-- The minute. -/
  minute : Nat
  /-- The second. -/
  second : Nat
  /-- The microsecond. -/
  micro : Nat
  /-- A day has 24 hours. -/
  hour_lt : hour < 24
  /-- An hour has 60 minutes. -/
  minute_lt : minute < 60
  /-- A minute has 60 seconds. -/
  second_lt : second < 60
  /-- A second has a million microseconds. -/
  micro_lt : micro < 1000000
  deriving DecidableEq

/-- The time of day with these fields, if there is one. -/
def Clock.of? (hour minute second micro : Nat) : Option Clock :=
  if h : hour < 24 ∧ minute < 60 ∧ second < 60 ∧ micro < 1000000 then
    some ⟨hour, minute, second, micro, h.1, h.2.1, h.2.2.1, h.2.2.2⟩
  else none

/-- Midnight. -/
def Clock.midnight : Clock := ⟨0, 0, 0, 0, by decide, by decide, by decide, by decide⟩

theorem Date.of?_self (d : Date) : Date.of? d.year d.month d.day = some d := by
  simp [Date.of?, d.year_bounds, d.month_bounds, d.day_bounds]

theorem Clock.of?_self (c : Clock) : Clock.of? c.hour c.minute c.second c.micro = some c := by
  simp [Clock.of?, c.hour_lt, c.minute_lt, c.second_lt, c.micro_lt]

/-! ## Weeks -/

/-- The number of days before the first of January of a year, counted from the first of January of
year 1. -/
def daysBeforeYear (year : Nat) : Nat :=
  let y := year - 1
  365 * y + y / 4 - y / 100 + y / 400

/-- The number of days of a year before the first of a month. -/
def daysBeforeMonth (year : Nat) : Nat → Nat
  | 0 => 0
  | month + 1 => daysBeforeMonth year month + daysInMonth year month

/-- The number of days before a date, counted from the first of January of year 1. -/
def Date.daysBefore (d : Date) : Nat :=
  daysBeforeYear d.year + daysBeforeMonth d.year d.month + (d.day - 1)

/-- The day of the week of the first of January, Monday being zero. -/
def firstWeekday (year : Nat) : Nat := daysBeforeYear year % 7

/-- The Monday of week 1, as a number of days after the first of January. -/
def firstMonday (year : Nat) : Int :=
  let w : Int := firstWeekday year
  if w ≤ 3 then -w else 7 - w

/-- The number of weeks of a year. -/
def weeksInYear (year : Nat) : Nat :=
  if firstWeekday year = 3 ∨ (firstWeekday year = 2 ∧ isLeap year) then 53 else 52

/-- The month and the day, from 1, of a day of the year, from 0; `month` is the month that the
count has reached and `months` how many come after it. -/
def monthAndDay (year month : Nat) : (months : Nat) → (day : Nat) → Nat × Nat
  | 0, day => (month, day + 1)
  | months + 1, day =>
    if day < daysInMonth year month then (month, day + 1)
    else monthAndDay year (month + 1) months (day - daysInMonth year month)

/-- The date that comes a number of days, possibly negative, after the first of January. -/
def Date.ofYearDay? (year : Nat) (day : Int) : Option Date :=
  let (year, day) :=
    if day < 0 then (year - 1, day + daysInYear (year - 1))
    else if daysInYear year ≤ day then (year + 1, day - daysInYear year)
    else (year, day)
  let (month, day) := monthAndDay year 1 11 day.toNat
  Date.of? year month day

/-- The date with a year, week and day of the week, both from 1, if there is one. -/
def Date.ofWeek? (year week weekday : Nat) : Option Date :=
  if (1 ≤ year ∧ year ≤ 9999) ∧ (1 ≤ week ∧ week ≤ weeksInYear year) ∧
      1 ≤ weekday ∧ weekday ≤ 7 then
    Date.ofYearDay? year (firstMonday year + ((week - 1) * 7 + (weekday - 1) : Nat))
  else none

end CloudEvents.Time
