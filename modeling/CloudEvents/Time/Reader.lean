import CloudEvents.Text.Blank
import CloudEvents.Time.Timestamp
/-!
# Reading timestamps

`read?` takes every timestamp of RFC 3339 and, beyond it, the basic and week forms of dates, any
single character between date and time, times that break off after a full field, and fractions
after a comma.

## The two steps

`normalize` comes first: a final `Z` or `z` becomes `+00:00`, and the first fraction
that is followed by an offset of hours and minutes or by the end is cut or filled up to six
digits. Then `readIso?` reads the result. The fields of an offset have no bounds of their own,
but the offset as a whole has to be less than a day; an offset without hours, minutes and
seconds is universal time.

U+0000 counts as the end of the text where a field could follow.
-/

namespace CloudEvents.Time

/-! ## Normal forms -/

/-- Writes a final `Z` or `z` as an offset. -/
def expandZulu (cs : List Char) : List Char :=
  match cs.getLast? with
  | some 'Z' | some 'z' => cs.dropLast ++ ['+', '0', '0', ':', '0', '0']
  | _ => cs

/-- Whether the text is over, up to a line end. -/
def isEnd (cs : List Char) : Bool := cs == [] || cs == ['\n']

/-- Whether the rest of a text after a fraction is an offset of hours and minutes, or nothing. -/
def endsFraction (rest : List Char) : Bool :=
  isEnd rest ||
    match rest with
    | sign :: a :: b :: tail =>
      (sign == '+' || sign == '-') && Text.isDecimalDigit a && Text.isDecimalDigit b &&
        match (if tail.head? == some ':' then tail.drop 1 else tail) with
        | c :: d :: tail => Text.isDecimalDigit c && Text.isDecimalDigit d && isEnd tail
        | _ => false
    | _ => false

/-- The digits of a fraction cut or filled up with zeros to six. -/
def sixDigits (digits : List Char) : List Char :=
  digits.take 6 ++ List.replicate (6 - digits.length) '0'

/-- Brings the first fraction that ends the time to six digits. -/
def normalizeFraction : List Char → List Char
  | [] => []
  | c :: rest =>
    let digits := rest.takeWhile Text.isDecimalDigit
    let tail := rest.dropWhile Text.isDecimalDigit
    if c == '.' && digits != [] && endsFraction tail then '.' :: sixDigits digits ++ tail
    else c :: normalizeFraction rest

/-- Both steps on the text: the offset, then the fraction. -/
def normalize (cs : List Char) : List Char := normalizeFraction (expandZulu cs)

/-! ## Fields -/

/-- Reads a number of exactly `n` digits. -/
def number? (n : Nat) (cs : List Char) : Option (Nat × List Char) :=
  let digits := cs.take n
  if digits.length = n ∧ digits.all Char.isDigit then some (Text.natOfDigits digits, cs.drop n)
  else none

/-- The number of characters of the date in a text of `cs.length` characters. -/
def dateLength? (cs : List Char) : Option Nat :=
  let isDigitAt (i : Nat) : Bool := (cs[i]?.map Char.isDigit).getD false
  if cs.length < 7 then none
  else if cs.length = 7 then some 7
  else if cs[4]? = some '-' then
    if cs[5]? = some 'W' then
      if cs[8]? = some '-' then
        if cs.length = 9 then none else if isDigitAt 10 then some 8 else some 10
      else some 8
    else some 10
  else if cs[4]? = some 'W' then
    let p := 7 + ((cs.drop 7).takeWhile Char.isDigit).length
    some (if p < 9 then p else if p % 2 = 0 then 7 else 8)
  else some 8

/-- Takes a character off the front of a text. -/
def expect? (c : Char) : List Char → Option (List Char)
  | x :: rest => if x = c then some rest else none
  | [] => none

/-- Reads the week and the day after `W`; without a day the week begins on Monday. -/
def week? (year : Nat) (dashed : Bool) (withDay : Bool) (cs : List Char) : Option Date := do
  let (week, rest) ← number? 2 cs
  if withDay then
    let rest ← if dashed then expect? '-' rest else some rest
    let (weekday, _) ← number? 1 rest
    Date.ofWeek? year week weekday
  else Date.ofWeek? year week 1

/-- Reads the date at the front of a text, `length` being the number of its characters. -/
def date? (length : Nat) (cs : List Char) : Option Date := do
  let (year, rest) ← number? 4 cs
  let dashed := rest.head? == some '-'
  let rest := if dashed then rest.drop 1 else rest
  match rest with
  | 'W' :: rest => week? year dashed (7 + (if dashed then 1 else 0) < length) rest
  | _ => do
    let (month, rest) ← number? 2 rest
    let rest ← if dashed then expect? '-' rest else some rest
    let (day, _) ← number? 2 rest
    Date.of? year month day

/-- The fields of a time or an offset, and whether text is left after them. -/
structure ClockFields where
  /-- The hours. -/
  hour : Nat := 0
  /-- The minutes. -/
  minute : Nat := 0
  /-- The seconds. -/
  second : Nat := 0
  /-- The microseconds. -/
  micro : Nat := 0
  /-- Whether text is left. -/
  trailing : Bool := false

/-- Whether text is left. -/
def isLeft (cs : List Char) : Bool :=
  match cs with
  | [] => false
  | c :: _ => c != '\x00'

/-- Reads a fraction: up to six digits are scaled to microseconds, further digits skipped. -/
def fraction? (f : ClockFields) (cs : List Char) : Option ClockFields := do
  let n := min 6 cs.length
  let (digits, rest) ← number? n cs
  let rest := rest.dropWhile Char.isDigit
  return { f with micro := digits * Nat.pow 10 (6 - n), trailing := isLeft rest }

/-- Sets the field with a number: hour, minute or second. -/
def ClockFields.set (f : ClockFields) (field value : Nat) : ClockFields :=
  match field with
  | 0 => { f with hour := value }
  | 1 => { f with minute := value }
  | _ => { f with second := value }

/-- Reads hours, minutes and seconds, of which `left` are still to come, and the fraction after
them. `colons` says whether colons stand between the fields. A single character that follows a
field is left over; it has to be one of ASCII. -/
def fields? (f : ClockFields) (colons : Bool) : (left : Nat) → List Char → Option ClockFields
  | 0, cs => fraction? f cs
  | left + 1, cs => do
    let (value, rest) ← number? 2 cs
    let f := f.set (2 - left) value
    let colons := if left = 2 then rest.head? == some ':' else colons
    match rest with
    | [] => return f
    | [c] => if c.toNat < 0x80 then return { f with trailing := isLeft [c] } else none
    | c :: tail =>
      if colons && c == ':' then fields? f colons left tail
      else if c == '.' || c == ',' then fraction? f tail
      else if !colons then fields? f colons left rest
      else none

/-- Reads the fields of a time or an offset. -/
def clockFields? (cs : List Char) : Option ClockFields := fields? {} false 3 cs

/-- Reads an offset from its sign on. -/
def offset? (sign : Char) (cs : List Char) : Option Offset :=
  if sign = 'Z' then if isLeft cs then none else some Offset.utc
  else do
    let f ← clockFields? cs
    let seconds := f.hour * 3600 + f.minute * 60 + f.second
    if f.trailing then none
    else if seconds = 0 then return Offset.utc
    else
      let micros : Int := (seconds * 1000000 + f.micro : Nat)
      Offset.of? (if sign = '-' then -micros else micros)

/-- Whether a character goes on with the time before an offset. -/
def isTimeChar (c : Char) : Bool := !(c == '+' || c == '-' || c == 'Z')

/-- Reads a time of day and the offset after it. Text left over before an offset is passed over. -/
def clock? (cs : List Char) : Option (Clock × Option Offset) := do
  let f ← clockFields? (cs.takeWhile isTimeChar)
  let clock ← Clock.of? f.hour f.minute f.second f.micro
  match cs.dropWhile isTimeChar with
  | [] => if f.trailing then none else return (clock, none)
  | sign :: rest =>
    let offset ← offset? sign rest
    return (clock, some offset)

/-- Reads a timestamp: a date, or a date, a character and a time. -/
def readIso? (cs : List Char) : Option Timestamp := do
  let length ← dateLength? cs
  let date ← date? length cs
  if cs.length ≤ length then return ⟨date, Clock.midnight, none⟩
  let (clock, offset) ← clock? (cs.drop (length + 1))
  return ⟨date, clock, offset⟩

/-- Reads a timestamp as it stands in an attribute. -/
def Timestamp.read? (text : String) : Option Timestamp := readIso? (normalize text.toList)

end CloudEvents.Time
