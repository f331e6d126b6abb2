import CloudEvents.Text.Digits
import CloudEvents.Time.Calendar
/-!
# Timestamps

A timestamp is a date, a time of day and, if it is known, the distance from universal time. Its
text is `YYYY-MM-DDThh:mm:ss`, a fraction of six digits if there are microseconds, and `±hh:mm`
with as many further fields as the distance needs.
-/

namespace CloudEvents.Time

/-- The microseconds of a day. -/
def microsPerDay : Nat := 86400000000

/-- A distance from universal time of less than a day. -/
structure Offset where
  /-- The distance in microseconds, positive to the east. -/
  micros : Int
  /-- The distance is less than a day. -/
  bounds : micros.natAbs < microsPerDay
  deriving DecidableEq

/-- The distance of so many microseconds, if it is less than a day. -/
def Offset.of? (micros : Int) : Option Offset :=
  if h : micros.natAbs < microsPerDay then some ⟨micros, h⟩ else none

/-- Universal time. -/
def Offset.utc : Offset := ⟨0, by decide⟩

theorem Offset.of?_self (o : Offset) : Offset.of? o.micros = some o := by
  simp [Offset.of?, o.bounds]

/-- A timestamp. -/
structure Timestamp where
  /-- The date. -/
  date : Date
  /-- The time of day. -/
  clock : Clock
  /-- The distance from universal time, unless it is not known. -/
  offset : Option Offset
  deriving DecidableEq

/-- The microseconds of a day that have passed at a time of day. -/
def Clock.micros (c : Clock) : Nat :=
  ((c.hour * 60 + c.minute) * 60 + c.second) * 1000000 + c.micro

/-- The moment of a timestamp in microseconds of universal time since the first of January of
year 1, if its distance from universal time is known. -/
def Timestamp.instant? (t : Timestamp) : Option Int :=
  t.offset.map fun o => ((t.date.daysBefore * microsPerDay + t.clock.micros : Nat) : Int) - o.micros

/-- The hours, minutes, seconds and microseconds of a number of microseconds. -/
def splitMicros (n : Nat) : Nat × Nat × Nat × Nat :=
  (n / 3600000000, n / 60000000 % 60, n / 1000000 % 60, n % 1000000)

/-- A fraction of six digits, or nothing for zero. -/
def fractionText (micro : Nat) : List Char :=
  if micro = 0 then [] else '.' :: Text.padded 6 micro

/-- The text of a date. -/
def Date.text (d : Date) : List Char :=
  Text.padded 4 d.year ++ '-' :: Text.padded 2 d.month ++ '-' :: Text.padded 2 d.day

/-- The text of a time of day. -/
def Clock.text (c : Clock) : List Char :=
  Text.padded 2 c.hour ++ ':' :: Text.padded 2 c.minute ++ ':' :: Text.padded 2 c.second
    ++ fractionText c.micro

/-- The text of a distance from universal time. -/
def Offset.text (o : Offset) : List Char :=
  let (hour, minute, second, micro) := splitMicros o.micros.natAbs
  let tail :=
    if second = 0 ∧ micro = 0 then [] else ':' :: Text.padded 2 second ++ fractionText micro
  (if o.micros < 0 then '-' else '+') :: Text.padded 2 hour ++ ':' :: Text.padded 2 minute ++ tail

/-- The text of a timestamp, with a separator between date and time. -/
def Timestamp.textWith (separator : Char) (t : Timestamp) : List Char :=
  t.date.text ++ separator :: t.clock.text ++ (t.offset.map Offset.text).getD []

/-- The text of a timestamp. -/
def Timestamp.text (t : Timestamp) : String := String.ofList (t.textWith 'T')

end CloudEvents.Time
