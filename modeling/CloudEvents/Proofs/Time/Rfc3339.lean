import CloudEvents.Proofs.Attribute.Lookup
import CloudEvents.Proofs.Time.RoundTrip
/-!
# Timestamps of RFC 3339

RFC 3339 writes a timestamp as a date, a time of day with a fraction of any length or none, and a
zone: a letter of either case for universal time, or a distance from it in hours and minutes.
`Rfc3339` is what such a text says, and every text of that form is read as exactly that.

The text is rewritten twice before its fields are read.

* The letter becomes `+00:00`, so that every text ends in a distance (`expandZulu_zone`).
* The fraction is cut or filled up to six digits. It is the first full stop of the text, its digits
  run up to the sign, and a distance is what a fraction has to be followed by
  (`normalizeFraction_time`).

Cutting off digits rounds towards zero: the microseconds are the whole part of the fraction counted
in millionths (`natOfDigits_sixDigits`).

## Main statements

* `clockFields?_timeText`, `offset?_shiftText`: the fields of the time of day and of the distance;
* `Rfc3339.read?_text`: a text is read as what it says;
* `Rfc3339.time_of_headers`: and so it is as an attribute under any prefix.
-/

namespace CloudEvents

/-! ## Numbers by their digits -/

namespace Text

theorem natOfDigits_append (ds es : List Char) :
    natOfDigits (ds ++ es) = Nat.pow 10 es.length * natOfDigits ds + natOfDigits es := by
  rw [natOfDigits, Nat.ofDigitChars_append, Nat.ofDigitChars_eq_ofDigitChars_zero]
  rfl

theorem natOfDigits_lt {ds : List Char} (hdigits : ∀ c ∈ ds, c.isDigit = true) :
    natOfDigits ds < Nat.pow 10 ds.length := by
  induction ds with
  | nil => exact Nat.one_pos
  | cons c rest ih =>
    have hrest := ih fun x hx => hdigits x (List.mem_cons_of_mem c hx)
    have hc : natOfDigits [c] ≤ 9 := by
      have hdigit := hdigits c List.mem_cons_self
      rw [Char.isDigit, Bool.and_eq_true, decide_eq_true_eq, decide_eq_true_eq] at hdigit
      have hle : c.toNat ≤ 57 := hdigit.2
      change 10 * 0 + (c.toNat - 48) ≤ 9
      omega
    have hmul := Nat.mul_le_mul_left (Nat.pow 10 rest.length) hc
    have hpow : Nat.pow 10 (c :: rest).length = Nat.pow 10 rest.length * 10 := rfl
    rw [← List.singleton_append, natOfDigits_append, List.singleton_append, hpow]
    omega

/-- Digits that are cut off count together for less than one of those that stay. -/
theorem natOfDigits_take {ds : List Char} (hdigits : ∀ c ∈ ds, c.isDigit = true) (n : Nat) :
    natOfDigits (ds.take n) = natOfDigits ds / Nat.pow 10 (ds.length - n) := by
  have hlength : (ds.drop n).length = ds.length - n := List.length_drop
  have hcut : natOfDigits (ds.drop n) < Nat.pow 10 (ds.length - n) := by
    rw [← hlength]
    exact natOfDigits_lt fun c hc => hdigits c (List.mem_of_mem_drop hc)
  have hwhole : natOfDigits ds
      = Nat.pow 10 (ds.length - n) * natOfDigits (ds.take n) + natOfDigits (ds.drop n) := by
    conv_lhs => rw [← List.take_append_drop n ds, natOfDigits_append, hlength]
  rw [hwhole, Nat.mul_add_div (Nat.zero_lt_of_lt hcut), Nat.div_eq_of_lt hcut, Nat.add_zero]

end Text

namespace Time

open Text (padded natOfDigits)

/-! ## The form of the text -/

/-- A distance from universal time in hours and minutes, to the west or to the east. -/
def shiftText (west : Bool) (hour minute : Nat) : List Char :=
  (if west then '-' else '+') :: (padded 2 hour ++ ':' :: padded 2 minute)

/-- Such a distance in microseconds, positive to the east. -/
def shiftMicros (west : Bool) (hour minute : Nat) : Int :=
  let micros : Int := ((hour * 3600 + minute * 60) * 1000000 : Nat)
  if west then -micros else micros

/-- Digits after a full stop, or nothing. -/
def dotted (ds : List Char) : List Char := if ds = [] then [] else '.' :: ds

/-- A time of day with the digits of a fraction. -/
def timeText (hour minute second : Nat) (fraction : List Char) : List Char :=
  padded 2 hour ++ ':' :: (padded 2 minute ++ ':' :: (padded 2 second ++ dotted fraction))

/-- The zone of a timestamp. -/
inductive Zone where
  /-- Universal time, by its letter. -/
  | zulu (lower : Bool)
  /-- A distance from universal time. -/
  | shift (west : Bool) (hour minute : Nat) (hour_lt : hour < 24) (minute_lt : minute < 60)

namespace Zone

/-- The text of a zone. -/
def text : Zone → List Char
  | zulu lower => [if lower then 'z' else 'Z']
  | shift west hour minute _ _ => shiftText west hour minute

/-- The distance of a zone from universal time in microseconds. -/
def micros : Zone → Int
  | zulu _ => 0
  | shift west hour minute _ _ => shiftMicros west hour minute

/-- The text of a zone that has its letter written as a distance. -/
def expanded : Zone → List Char
  | zulu _ => shiftText false 0 0
  | shift west hour minute _ _ => shiftText west hour minute

end Zone

/-- What a timestamp of RFC 3339 says. -/
structure Rfc3339 where
  /-- The date. -/
  date : Date
  /-- The hour. -/
  hour : Nat
  /-- The minute. -/
  minute : Nat
  /-- The second. -/
  second : Nat
  /-- The digits of the fraction, none if there is no fraction. -/
  fraction : List Char
  /-- The zone. -/
  zone : Zone
  /-- A day has 24 hours. -/
  hour_lt : hour < 24
  /-- An hour has 60 minutes. -/
  minute_lt : minute < 60
  /-- A minute has 60 seconds. -/
  second_lt : second < 60
  /-- A fraction has digits only. -/
  fraction_digits : ∀ c ∈ fraction, c.isDigit = true

/-- The text of a timestamp of RFC 3339. -/
def Rfc3339.text (t : Rfc3339) : List Char :=
  t.date.text ++ 'T' :: (timeText t.hour t.minute t.second t.fraction ++ t.zone.text)

/-! ## The fraction in microseconds -/

/-- Six digits are the first ones of the fraction with zeros after it. -/
theorem sixDigits_eq_take (ds : List Char) :
    sixDigits ds = (ds ++ List.replicate 6 '0').take 6 := by
  rw [sixDigits, List.take_append, List.take_replicate, Nat.min_eq_left (Nat.sub_le 6 ds.length)]

theorem length_sixDigits (ds : List Char) : (sixDigits ds).length = 6 := by
  rw [sixDigits, List.length_append, List.length_take, List.length_replicate]
  omega

theorem isDigit_of_mem_sixDigits {ds : List Char} (hdigits : ∀ c ∈ ds, c.isDigit = true) {c : Char}
    (h : c ∈ sixDigits ds) : c.isDigit = true := by
  rcases List.mem_append.1 h with h | h
  · exact hdigits c (List.mem_of_mem_take h)
  · rw [List.eq_of_mem_replicate h]
    rfl

/-- Six digits are the fraction in millionths, rounded towards zero. -/
theorem natOfDigits_sixDigits {ds : List Char} (hdigits : ∀ c ∈ ds, c.isDigit = true) :
    natOfDigits (sixDigits ds) = natOfDigits ds * 1000000 / Nat.pow 10 ds.length := by
  rcases Nat.le_total ds.length 6 with hle | hle
  · -- zeros are added, and each counts for a factor of ten
    have hzeros : natOfDigits (sixDigits ds) = Nat.pow 10 (6 - ds.length) * natOfDigits ds := by
      rw [sixDigits, List.take_of_length_le hle, natOfDigits, Nat.ofDigitChars_append,
        Nat.ofDigitChars_replicate_zero]
      rfl
    have hmillion : 1000000 = Nat.pow 10 (6 - ds.length) * Nat.pow 10 ds.length :=
      (congrArg (Nat.pow 10) (Nat.sub_add_cancel hle)).symm.trans (Nat.pow_add 10 _ _)
    have hpos : 0 < Nat.pow 10 ds.length := Nat.pow_pos (by decide)
    rw [hzeros, hmillion, ← Nat.mul_assoc, Nat.mul_div_cancel _ hpos, Nat.mul_comm]
  · have hstay : sixDigits ds = ds.take 6 := by
      rw [sixDigits, Nat.sub_eq_zero_of_le hle]
      exact List.append_nil _
    have hpow : Nat.pow 10 ds.length = Nat.pow 10 (ds.length - 6) * 1000000 :=
      (congrArg (Nat.pow 10) (Nat.sub_add_cancel hle)).symm.trans (Nat.pow_add 10 _ 6)
    rw [hstay, Text.natOfDigits_take hdigits, hpow, Nat.mul_div_mul_right _ _ (by decide)]

/-! ## The distance from universal time -/

section Shift

variable {west : Bool} {hour minute : Nat}

/-- The fields of a distance have two digits each. -/
theorem exists_padded_two {n : Nat} (h : n < 100) :
    ∃ a b, padded 2 n = [a, b] ∧ Text.isDecimalDigit a = true ∧ Text.isDecimalDigit b = true := by
  obtain ⟨a, b, hpadded⟩ := List.length_eq_two.1 (Text.length_padded (w := 2) (by decide) h)
  have hdigit : ∀ c ∈ [a, b], Text.isDecimalDigit c = true := by
    rw [← hpadded]
    exact fun c hc => Text.isDecimalDigit_of_isDigit (Text.isDigit_of_mem_padded hc)
  exact ⟨a, b, hpadded, hdigit a (by simp), hdigit b (by simp)⟩

/-- A fraction may end before a distance. -/
theorem endsFraction_shiftText (west : Bool) (hhour : hour < 100) (hminute : minute < 100) :
    endsFraction (shiftText west hour minute) = true := by
  obtain ⟨a, b, hh, ha, hb⟩ := exists_padded_two hhour
  obtain ⟨c, d, hm, hc, hd⟩ := exists_padded_two hminute
  rw [shiftText, hh, hm]
  cases west <;> simp [endsFraction, isEnd, ha, hb, hc, hd]

/-- A distance begins with a sign, which is no digit. -/
theorem dropWhile_shiftText (west : Bool) (hour minute : Nat) :
    (shiftText west hour minute).dropWhile Text.isDecimalDigit = shiftText west hour minute := by
  have hsign : Text.isDecimalDigit (if west then '-' else '+') = false := by
    cases west <;> decide
  rw [shiftText, List.dropWhile_cons, hsign, if_neg Bool.false_ne_true]

theorem of_mem_shiftText {x : Char} (h : x ∈ shiftText west hour minute) :
    x.isDigit = true ∨ x ∈ ['+', '-', ':'] := by
  rw [shiftText] at h
  rcases List.mem_cons.1 h with rfl | h
  · cases west <;> exact Or.inr (by decide)
  · rcases of_mem_field h with h | rfl | h
    · exact Or.inl h
    · exact Or.inr (by decide)
    · exact Or.inl (Text.isDigit_of_mem_padded h)

theorem natAbs_shiftMicros_lt (west : Bool) (hhour : hour < 24) (hminute : minute < 60) :
    (shiftMicros west hour minute).natAbs < microsPerDay := by
  have hlt : (hour * 3600 + minute * 60) * 1000000 < microsPerDay := by
    rw [microsPerDay]
    omega
  rw [shiftMicros]
  cases west with
  | false => rwa [if_neg Bool.false_ne_true, Int.natAbs_natCast]
  | true => rwa [if_pos rfl, Int.natAbs_neg, Int.natAbs_natCast]

/-- A distance is read with its sign. -/
theorem offset?_shiftText (west : Bool) (hhour : hour < 24) (hminute : minute < 60) :
    offset? (if west then '-' else '+') (padded 2 hour ++ ':' :: padded 2 minute)
      = Offset.of? (shiftMicros west hour minute) := by
  have hsign : (if west then '-' else '+') ≠ 'Z' := by cases west <;> decide
  rw [offset?, if_neg hsign, clockFields?_minutes hhour hminute]
  simp only [Option.bind_eq_bind, Option.bind_some, if_neg Bool.false_ne_true]
  rw [Nat.add_zero, Nat.add_zero]
  split
  · -- no distance at all is universal time, under either sign
    rename_i hzero
    have hmicros : shiftMicros west hour minute = 0 := by
      rw [shiftMicros, hzero]
      cases west <;> rfl
    rw [hmicros]
    rfl
  · cases west <;> rfl

end Shift

namespace Zone

/-- Every zone is a distance once its letter is written as one. -/
theorem exists_expanded_eq (z : Zone) : ∃ west hour minute, hour < 24 ∧ minute < 60 ∧
    z.expanded = shiftText west hour minute ∧ z.micros = shiftMicros west hour minute := by
  cases z with
  | zulu lower => exact ⟨false, 0, 0, by decide, by decide, rfl, rfl⟩
  | shift west hour minute hhour hminute => exact ⟨west, hour, minute, hhour, hminute, rfl, rfl⟩

theorem natAbs_micros_lt (z : Zone) : z.micros.natAbs < microsPerDay := by
  obtain ⟨west, hour, minute, hhour, hminute, -, hmicros⟩ := z.exists_expanded_eq
  rw [hmicros]
  exact natAbs_shiftMicros_lt west hhour hminute

/-- The distance of a zone from universal time. -/
def offset (z : Zone) : Offset := ⟨z.micros, z.natAbs_micros_lt⟩

end Zone

/-- A letter at the end becomes a distance, and a distance stays. -/
theorem expandZulu_zone (pre : List Char) (z : Zone) :
    expandZulu (pre ++ z.text) = pre ++ z.expanded := by
  cases z with
  | zulu lower =>
    cases lower <;>
      simp [expandZulu, Zone.text, Zone.expanded, shiftText, List.getLast?_append] <;> rfl
  | shift west hour minute hhour hminute =>
    refine expandZulu_append pre (List.cons_ne_nil _ _) fun x hx => ⟨?_, ?_⟩ <;> rintro rfl <;>
      exact absurd (of_mem_shiftText hx) (by decide)

/-! ## The time of day -/

section TimeOfDay

variable {hour minute second : Nat} {fraction : List Char}

theorem of_mem_timeText (hdigits : ∀ c ∈ fraction, c.isDigit = true) {x : Char}
    (h : x ∈ timeText hour minute second fraction) : x.isDigit = true ∨ x = ':' ∨ x = '.' := by
  have hdotted : x ∈ dotted fraction → x.isDigit = true ∨ x = '.' := by
    rw [dotted]
    split
    · intro h
      cases h
    · intro h
      exact (List.mem_cons.1 h).symm.imp_left (hdigits x)
  refine of_mem_clock (fun h => ?_) h
  rcases List.mem_append.1 h with h | h
  · exact Or.inl (Text.isDigit_of_mem_padded h)
  · exact (hdotted h).imp_right Or.inr

/-- The digits to which a fraction is brought. -/
def sixOrNone (fraction : List Char) : List Char :=
  if fraction = [] then [] else sixDigits fraction

theorem isDigit_of_mem_sixOrNone (hdigits : ∀ c ∈ fraction, c.isDigit = true) :
    ∀ c ∈ sixOrNone fraction, c.isDigit = true := by
  rw [sixOrNone]
  split
  · simp
  · exact fun c hc => isDigit_of_mem_sixDigits hdigits hc

theorem dotted_sixOrNone (h : fraction ≠ []) :
    dotted (sixOrNone fraction) = '.' :: sixDigits fraction := by
  have hsix : sixDigits fraction ≠ [] :=
    List.ne_nil_of_length_pos (by rw [length_sixDigits]; decide)
  rw [sixOrNone, if_neg h, dotted, if_neg hsix]

/-- The fraction between the time of day and a distance is brought to six digits, and nothing else
is touched. -/
theorem normalizeFraction_time {pre tail : List Char} (hpre : '.' ∉ pre)
    (hdigits : ∀ c ∈ fraction, c.isDigit = true) (hends : endsFraction tail = true)
    (htail : tail.dropWhile Text.isDecimalDigit = tail) (hdot : '.' ∉ tail) :
    normalizeFraction (pre ++ (timeText hour minute second fraction ++ tail))
      = pre ++ (timeText hour minute second (sixOrNone fraction) ++ tail) := by
  have hfraction : normalizeFraction (dotted fraction ++ tail)
      = dotted (sixOrNone fraction) ++ tail := by
    by_cases hne : fraction = []
    · have hself := normalizeFraction_append hdot []
      rw [List.append_nil, normalizeFraction, List.append_nil] at hself
      rw [hne]
      exact hself
    · rw [dotted_sixOrNone hne, dotted, if_neg hne, List.cons_append,
        normalizeFraction_digits hne hdigits htail, if_pos hends]
      rfl
  have hfields : '.' ∉ padded 2 hour ++ ':' :: (padded 2 minute ++ ':' :: padded 2 second) := by
    simp [dot_not_mem_padded]
  have htext : ∀ ds, timeText hour minute second ds
      = (padded 2 hour ++ ':' :: (padded 2 minute ++ ':' :: padded 2 second)) ++ dotted ds := by
    intro ds
    simp [timeText]
  rw [normalizeFraction_append hpre, htext, List.append_assoc, normalizeFraction_append hfields,
    hfraction, htext, List.append_assoc _ (dotted (sixOrNone fraction))]

/-- The fields of a time of day are read, with six digits of the fraction or none. -/
theorem clockFields?_timeText (hhour : hour < 24) (hminute : minute < 60) (hsecond : second < 60)
    (hdigits : ∀ c ∈ fraction, c.isDigit = true) :
    clockFields? (timeText hour minute second (sixOrNone fraction))
      = some ⟨hour, minute, second, natOfDigits (sixDigits fraction), false⟩ := by
  rw [timeText, clockFields?_append hhour hminute (padded_append_ne_nil (by omega) _)]
  by_cases hne : fraction = []
  · rw [hne]
    change fields? _ _ (0 + 1) (padded 2 second ++ []) = _
    rw [List.append_nil, fields?_last (by omega)]
    rfl
  · rw [dotted_sixOrNone hne, fields?_fraction (by omega) (length_sixDigits fraction)
      fun c hc => isDigit_of_mem_sixDigits hdigits hc]

end TimeOfDay

/-! ## Timestamps -/

/-- A timestamp is what is read of a text. -/
theorem timestamp_eq_ok_iff {v : Value} {s : String} (hv : v.text? = some s) {t : Timestamp} :
    Attribute.timestamp v = .ok (.time t) ↔ Timestamp.read? s = some t := by
  unfold Attribute.timestamp
  split
  · cases hv
  · cases hv
  · rw [hv, Option.bind_some]
    cases Timestamp.read? s with
    | none => exact iff_of_false (fun h => by cases h) fun h => by cases h
    | some t' => simp

namespace Rfc3339

/-- The microseconds of a timestamp: the fraction in millionths, rounded towards zero. -/
def micro (t : Rfc3339) : Nat :=
  natOfDigits t.fraction * 1000000 / Nat.pow 10 t.fraction.length

theorem micro_lt (t : Rfc3339) : t.micro < 1000000 := by
  have hsix := Text.natOfDigits_lt fun c => isDigit_of_mem_sixDigits t.fraction_digits (c := c)
  rw [natOfDigits_sixDigits t.fraction_digits, length_sixDigits] at hsix
  exact hsix

/-- The timestamp that has exactly the fields of the text. -/
def timestamp (t : Rfc3339) : Timestamp where
  date := t.date
  clock := ⟨t.hour, t.minute, t.second, t.micro, t.hour_lt, t.minute_lt, t.second_lt, t.micro_lt⟩
  offset := some t.zone.offset

/-- Both rewritings of the text at once. -/
theorem normalize_text (t : Rfc3339) :
    normalize t.text = t.date.text ++ 'T' ::
      (timeText t.hour t.minute t.second (sixOrNone t.fraction) ++ t.zone.expanded) := by
  obtain ⟨west, hour, minute, hhour, hminute, hexpanded, -⟩ := t.zone.exists_expanded_eq
  have hpre : '.' ∉ t.date.text ++ ['T'] := by
    simp [Date.text, dot_not_mem_padded]
  have hdot : '.' ∉ shiftText west hour minute := fun h =>
    absurd (of_mem_shiftText h) (by decide)
  have htext : t.text = ((t.date.text ++ ['T']) ++
      timeText t.hour t.minute t.second t.fraction) ++ t.zone.text := by
    simp [text]
  rw [normalize, htext, expandZulu_zone, List.append_assoc, hexpanded,
    normalizeFraction_time hpre t.fraction_digits
      (endsFraction_shiftText west (by omega) (by omega)) (dropWhile_shiftText west hour minute)
      hdot, List.append_assoc, List.singleton_append]

/-- A text is read as what it says. -/
theorem read?_text (t : Rfc3339) : Timestamp.read? (String.ofList t.text) = some t.timestamp := by
  obtain ⟨west, hour, minute, hhour, hminute, hexpanded, hmicros⟩ := t.zone.exists_expanded_eq
  have hfields := clockFields?_timeText t.hour_lt t.minute_lt t.second_lt t.fraction_digits
  rw [natOfDigits_sixDigits t.fraction_digits] at hfields
  have hchars : ∀ x ∈ timeText t.hour t.minute t.second (sixOrNone t.fraction),
      isTimeChar x = true := fun x hx =>
    isTimeChar_of_field (of_mem_timeText (isDigit_of_mem_sixOrNone t.fraction_digits) hx)
  have hsign : isTimeChar (if west then '-' else '+') = false := by cases west <;> rfl
  have hoffset : offset? (if west then '-' else '+') (padded 2 hour ++ ':' :: padded 2 minute)
      = some t.zone.offset := by
    rw [offset?_shiftText west hhour hminute, ← hmicros]
    exact Offset.of?_self t.zone.offset
  have hclock := clock?_append hchars hsign hfields t.timestamp.clock.of?_self
    (padded 2 hour ++ ':' :: padded 2 minute)
  rw [hoffset] at hclock
  rw [Timestamp.read?, String.toList_ofList, normalize_text, hexpanded]
  exact readIso?_append t.date 'T' hclock

/-- **Timestamps are read exactly.**  A text of RFC 3339 under the time of an event, with a fraction
of any length or none and with a zone of any form, is read as the timestamp that has exactly its
fields. The microseconds are the first six digits of the fraction with zeros after it, which is the
fraction rounded towards zero, and the distance from universal time has the sign of the text. -/
theorem time_of_headers {p : Prefix} (hp : p ≠ .none) {headers : Fields Value}
    (h : headers.KeysUnder p) (t : Rfc3339)
    (ht : headers.get? (p.key Attribute.time.name) = some (.text (String.ofList t.text))) :
    ∃ (read : Timestamp) (offset : Offset),
      Accessor.time.get headers = .ok (.time read) ∧ read.date = t.date ∧
      read.clock.hour = t.hour ∧ read.clock.minute = t.minute ∧ read.clock.second = t.second ∧
      read.clock.micro = natOfDigits ((t.fraction ++ List.replicate 6 '0').take 6) ∧
      read.clock.micro = natOfDigits t.fraction * 1000000 / Nat.pow 10 t.fraction.length ∧
      read.offset = some offset ∧ offset.micros = t.zone.micros := by
  have hkey : Prefix.ofKey (p.key Attribute.time.name) ≠ .none := by
    rw [Prefix.ofKey_key hp]
    exact hp
  have hvalue : headers.attributeValue .time = .text (String.ofList t.text) := by
    rw [Fields.attributeValue, h.lookupPrefix_eq (Fields.mem_of_get?_eq_some ht) hkey, Fields.value,
      ht]
    rfl
  have hget : Accessor.time.get headers = .ok (.time t.timestamp) := by
    simp only [Accessor.get, hvalue, Attribute.timestamp, Value.text?, Option.bind_some,
      t.read?_text]
  have hmicro : t.micro = natOfDigits ((t.fraction ++ List.replicate 6 '0').take 6) := by
    rw [← sixDigits_eq_take, natOfDigits_sixDigits t.fraction_digits]
    rfl
  exact ⟨t.timestamp, t.zone.offset, hget, rfl, rfl, rfl, rfl, hmicro, rfl, rfl, rfl⟩

/-- Two seconds before the end of a leap day, to the west of universal time. -/
def leapDayEnd : Rfc3339 where
  date := ⟨2020, 2, 29, by decide, by decide, by decide⟩
  hour := 23
  minute := 59
  second := 58
  fraction := "99999989".toList
  zone := .shift true 3 30 (by decide) (by decide)
  hour_lt := by decide
  minute_lt := by decide
  second_lt := by decide
  fraction_digits := List.all_eq_true.1 rfl

/-- Headers of an event at that time. -/
def leapDayHeaders : Fields Value :=
  Fields.ofList [("time", .int 1), ("cloudEvents:type", .text "order"),
    ("cloudEvents:time", .text "2020-02-29T23:59:58.99999989-03:30")]

/-- The last digits are cut off and not rounded to the next second. -/
theorem time_of_headers_leapDayHeaders :
    leapDayHeaders.KeysUnder .amqp ∧
      ∃ (read : Timestamp) (offset : Offset),
        Accessor.time.get leapDayHeaders = .ok (.time read) ∧ read.clock.second = 58 ∧
        read.clock.micro = 999999 ∧ read.offset = some offset ∧
        offset.micros = -12600000000 := by
  have hunder : leapDayHeaders.KeysUnder .amqp := by decide
  obtain ⟨read, offset, hget, -, -, -, hsecond, hmicro, -, hoffset, hmicros⟩ :=
    time_of_headers (by decide) hunder leapDayEnd rfl
  exact ⟨hunder, read, offset, hget, hsecond, hmicro, hoffset, hmicros⟩

end Rfc3339

end Time

end CloudEvents
