import CloudEvents.Time.Reader
/-!
# Timestamps that are read back

The text of a timestamp has all its fields at fixed places, and what is read from it is the
timestamp again. Neither of the two steps of `Timestamp.read?` stands in the way.

* `normalize` leaves such a text as it is. Its last character is a digit, and every fraction in it
  has its six digits already.
* `readIso?` finds the date in the first ten characters and goes on to the first sign for the
  distance from universal time.

The one thing that is lost is a distance from universal time of less than a second, since hours,
minutes and seconds that are all zero stand for universal time, whatever fraction comes after them
(`Offset.readBack`).

## Main statements

* `clockFields?_seconds`, `clockFields?_minutes`: the fields of a time of day;
* `offset?_text`: the distance from universal time;
* `Timestamp.read?_textWith`: what is read from the text of a timestamp.
-/

namespace CloudEvents

/-! ## Numbers of a fixed width -/

namespace Text

theorem length_padded {w n : Nat} (hw : 0 < w) (h : n < Nat.pow 10 w) :
    (padded w n).length = w := by
  have hle : (decimal n).length ≤ w := (Nat.length_toDigits_le_iff (by decide) hw).2 h
  rw [padded, List.length_append, List.length_replicate]
  omega

theorem natOfDigits_padded (w n : Nat) : natOfDigits (padded w n) = n := by
  rw [padded, natOfDigits, Nat.ofDigitChars_append, Nat.ofDigitChars_replicate_zero, Nat.mul_zero]
  exact natOfDigits_decimal n

theorem isDigit_of_mem_padded {w n : Nat} {c : Char} (h : c ∈ padded w n) :
    c.isDigit = true := by
  rcases List.mem_append.1 h with hzero | hdigit
  · rw [List.eq_of_mem_replicate hzero]
    rfl
  · exact isDigit_of_mem_decimal hdigit

theorem isDecimalDigit_of_isDigit {c : Char} (h : c.isDigit = true) : isDecimalDigit c = true := by
  rw [isDecimalDigit, h, Bool.true_or]

end Text

namespace Time

open Text (padded)

/-- A number is read from its digits, whatever comes after them. -/
theorem number?_digits {w : Nat} {ds : List Char} (hlength : ds.length = w)
    (hdigits : ∀ c ∈ ds, c.isDigit = true) (rest : List Char) :
    number? w (ds ++ rest) = some (Text.natOfDigits ds, rest) := by
  have htake : (ds ++ rest).take w = ds := by
    rw [List.take_append_of_le_length (Nat.le_of_eq hlength.symm),
      List.take_of_length_le (Nat.le_of_eq hlength)]
  have hdrop : (ds ++ rest).drop w = rest := by
    rw [List.drop_append, List.drop_of_length_le (Nat.le_of_eq hlength), hlength, Nat.sub_self]
    rfl
  rw [number?, htake, if_pos ⟨hlength, List.all_eq_true.2 hdigits⟩, hdrop]

theorem number?_padded {w n : Nat} (hw : 0 < w) (h : n < Nat.pow 10 w)
    (rest : List Char) : number? w (padded w n ++ rest) = some (n, rest) := by
  rw [number?_digits (Text.length_padded hw h) (fun c hc => Text.isDigit_of_mem_padded hc),
    Text.natOfDigits_padded]

/-! ## Normal forms -/

/-- Text without a full stop is passed over. -/
theorem normalizeFraction_append {pre : List Char} (hpre : '.' ∉ pre) (tail : List Char) :
    normalizeFraction (pre ++ tail) = pre ++ normalizeFraction tail := by
  induction pre with
  | nil => rfl
  | cons c rest ih =>
    rw [List.mem_cons, not_or] at hpre
    have hdot : (c == '.') = false := beq_eq_false_iff_ne.2 (Ne.symm hpre.1)
    rw [List.cons_append, normalizeFraction, hdot, Bool.false_and, Bool.false_and,
      if_neg Bool.false_ne_true, ih hpre.2, List.cons_append]

/-- A fraction is brought to six digits if the rest of the text lets it end there. -/
theorem normalizeFraction_digits {ds tail : List Char} (hne : ds ≠ [])
    (hdigits : ∀ c ∈ ds, c.isDigit = true)
    (htail : tail.dropWhile Text.isDecimalDigit = tail) :
    normalizeFraction ('.' :: (ds ++ tail))
      = '.' :: if endsFraction tail then sixDigits ds ++ tail
        else ds ++ normalizeFraction tail := by
  have hall : ∀ c ∈ ds, Text.isDecimalDigit c = true := fun c hc =>
    Text.isDecimalDigit_of_isDigit (hdigits c hc)
  have hnone : tail.takeWhile Text.isDecimalDigit = [] := by
    have hsplit := List.takeWhile_append_dropWhile (p := Text.isDecimalDigit) (l := tail)
    rw [htail] at hsplit
    simpa using hsplit
  have htake : (ds ++ tail).takeWhile Text.isDecimalDigit = ds := by
    rw [List.takeWhile_append_of_pos hall, hnone, List.append_nil]
  have hdrop : (ds ++ tail).dropWhile Text.isDecimalDigit = tail := by
    rw [List.dropWhile_append_of_pos hall, htail]
  have hdot : '.' ∉ ds := fun hmem => by cases hdigits '.' hmem
  rw [normalizeFraction, htake, hdrop, bne_iff_ne.2 hne, normalizeFraction_append hdot]
  cases endsFraction tail <;> rfl

/-- A fraction of six digits stays. -/
theorem normalizeFraction_fractionText {micro : Nat} (hmicro : micro < 1000000) {tail : List Char}
    (htail : tail.dropWhile Text.isDecimalDigit = tail) (h : normalizeFraction tail = tail) :
    normalizeFraction (fractionText micro ++ tail) = fractionText micro ++ tail := by
  rw [fractionText]
  split
  · exact h
  · have hlength := Text.length_padded (w := 6) (by decide) hmicro
    have hsix : sixDigits (padded 6 micro) = padded 6 micro := by
      rw [sixDigits, hlength, List.take_of_length_le (Nat.le_of_eq hlength)]
      exact List.append_nil _
    -- the fraction is rewritten to itself, or passed over if the rest does not end one
    rw [List.cons_append, normalizeFraction_digits (List.ne_nil_of_length_pos (by omega))
      (fun c hc => Text.isDigit_of_mem_padded hc) htail, hsix, h, ite_self]

/-! ## Fields -/

/-- A field that ends the text. -/
theorem fields?_last {f : ClockFields} {colons : Bool} {left n : Nat} (h : n < 100) :
    fields? f colons (left + 1) (padded 2 n) = some (f.set (2 - left) n) := by
  have hnumber := number?_padded (w := 2) (by decide) h []
  rw [List.append_nil] at hnumber
  rw [fields?, hnumber]
  rfl

/-- A field with another one after it. -/
theorem fields?_colon {f : ClockFields} {colons : Bool} {left n : Nat} (h : n < 100)
    (hcolons : left = 2 ∨ colons = true) {rest : List Char} (hrest : rest ≠ []) :
    fields? f colons (left + 1) (padded 2 n ++ ':' :: rest)
      = fields? (f.set (2 - left) n) true left rest := by
  obtain ⟨c, tail, rfl⟩ := List.exists_cons_of_ne_nil hrest
  -- the character after the first field says for all fields whether there are colons
  have hmode : (if left = 2 then (':' :: c :: tail).head? == some ':' else colons) = true := by
    rcases hcolons with rfl | rfl
    · rfl
    · split <;> rfl
  rw [fields?, number?_padded (by decide) h]
  simp only [Option.bind_eq_bind, Option.bind_some, hmode]
  rfl

/-- The seconds with a fraction of six digits. -/
theorem fields?_fraction {f : ClockFields} {n : Nat} (h : n < 100) {ds : List Char}
    (hlength : ds.length = 6) (hdigits : ∀ c ∈ ds, c.isDigit = true) :
    fields? f true 1 (padded 2 n ++ '.' :: ds)
      = some { f with second := n, micro := Text.natOfDigits ds, trailing := false } := by
  have hnumber := number?_digits hlength hdigits []
  rw [List.append_nil] at hnumber
  have hfraction : fraction? { f with second := n } ds
      = some { f with second := n, micro := Text.natOfDigits ds, trailing := false } := by
    have hscale : Text.natOfDigits ds * Nat.pow 10 (6 - 6) = Text.natOfDigits ds := Nat.mul_one _
    rw [fraction?, hlength]
    simp only [Nat.min_self, hnumber, Option.bind_eq_bind, Option.bind_some, hscale]
    rfl
  obtain ⟨c, tail, htail⟩ := List.exists_cons_of_ne_nil
    (List.ne_nil_of_length_pos (l := ds) (by omega))
  rw [fields?, number?_padded (by decide) h]
  simp only [Option.bind_eq_bind, Option.bind_some]
  rw [htail] at hfraction ⊢
  exact hfraction

/-- The seconds with the fraction that is written for their microseconds. -/
theorem fields?_seconds {hour minute second micro : Nat} (hsecond : second < 60)
    (hmicro : micro < 1000000) :
    fields? { hour := hour, minute := minute } true 1 (padded 2 second ++ fractionText micro)
      = some ⟨hour, minute, second, micro, false⟩ := by
  rw [fractionText]
  split
  · rename_i hzero
    rw [List.append_nil, fields?_last (by omega), hzero]
    rfl
  · rw [fields?_fraction (by omega) (Text.length_padded (by decide) hmicro)
      (fun c hc => Text.isDigit_of_mem_padded hc), Text.natOfDigits_padded]

theorem padded_append_ne_nil {n : Nat} (h : n < 100) (rest : List Char) :
    padded 2 n ++ rest ≠ [] := by
  have hlength := Text.length_padded (w := 2) (by decide) h
  exact List.ne_nil_of_length_pos (by rw [List.length_append]; omega)

/-- Hours and minutes are read, and what comes after them are seconds. -/
theorem clockFields?_append {hour minute : Nat} (hhour : hour < 24) (hminute : minute < 60)
    {rest : List Char} (hrest : rest ≠ []) :
    clockFields? (padded 2 hour ++ ':' :: (padded 2 minute ++ ':' :: rest))
      = fields? { hour := hour, minute := minute } true 1 rest := by
  rw [clockFields?, fields?_colon (by omega) (Or.inl rfl) (padded_append_ne_nil (by omega) _),
    fields?_colon (by omega) (Or.inr rfl) hrest]
  rfl

/-- All fields are read. -/
theorem clockFields?_seconds {hour minute second micro : Nat} (hhour : hour < 24)
    (hminute : minute < 60) (hsecond : second < 60) (hmicro : micro < 1000000) :
    clockFields? (padded 2 hour ++ ':' :: (padded 2 minute ++ ':' ::
      (padded 2 second ++ fractionText micro))) = some ⟨hour, minute, second, micro, false⟩ := by
  rw [clockFields?_append hhour hminute (padded_append_ne_nil (by omega) _)]
  exact fields?_seconds hsecond hmicro

/-- Hours and minutes are read alone. -/
theorem clockFields?_minutes {hour minute : Nat} (hhour : hour < 24) (hminute : minute < 60) :
    clockFields? (padded 2 hour ++ ':' :: padded 2 minute)
      = some ⟨hour, minute, 0, 0, false⟩ := by
  have hne := padded_append_ne_nil (n := minute) (by omega) []
  rw [List.append_nil] at hne
  rw [clockFields?, fields?_colon (by omega) (Or.inl rfl) hne, fields?_last (by omega)]
  rfl

/-! ## Distances from universal time -/

/-- What is read back of a distance: less than a second is nothing. -/
def Offset.readBack (o : Offset) : Offset := if o.micros.natAbs < 1000000 then .utc else o

/-- A distance is read back unless it is less than a second and not nothing. -/
theorem Offset.readBack_eq_self_iff {o : Offset} :
    o.readBack = o ↔ o.micros = 0 ∨ 1000000 ≤ o.micros.natAbs := by
  rw [readBack]
  split
  · rename_i hlt
    constructor
    · intro h
      exact Or.inl (congrArg Offset.micros h).symm
    · rintro (h | h)
      · cases o
        cases h
        rfl
      · omega
  · rename_i hge
    exact iff_of_true rfl (Or.inr (by omega))

/-- The sign of a distance. -/
def Offset.sign (o : Offset) : Char := if o.micros < 0 then '-' else '+'

/-- The hours and minutes of a number of microseconds, and what is left of it if anything is. -/
def Offset.fieldsText (n : Nat) : List Char :=
  padded 2 (n / 3600000000) ++ ':' :: (padded 2 (n / 60000000 % 60) ++
    if n / 1000000 % 60 = 0 ∧ n % 1000000 = 0 then []
    else ':' :: (padded 2 (n / 1000000 % 60) ++ fractionText (n % 1000000)))

theorem Offset.text_eq (o : Offset) : o.text = o.sign :: Offset.fieldsText o.micros.natAbs := by
  simp only [text, sign, fieldsText, splitMicros, List.cons_append, List.append_assoc]
  rfl

theorem offset?_text (o : Offset) :
    offset? o.sign (Offset.fieldsText o.micros.natAbs) = some o.readBack := by
  have hbounds := o.bounds
  rw [microsPerDay] at hbounds
  obtain ⟨n, hn⟩ : ∃ n, n = o.micros.natAbs := ⟨_, rfl⟩
  have hhour : n / 3600000000 < 24 := by omega
  have hminute : n / 60000000 % 60 < 60 := by omega
  have hsecond : n / 1000000 % 60 < 60 := by omega
  have hmicro : n % 1000000 < 1000000 := by omega
  rw [← hn]
  have hfields : clockFields? (Offset.fieldsText n)
      = some ⟨n / 3600000000, n / 60000000 % 60, n / 1000000 % 60, n % 1000000, false⟩ := by
    rw [Offset.fieldsText]
    by_cases hzero : n / 1000000 % 60 = 0 ∧ n % 1000000 = 0
    · rw [if_pos hzero, List.append_nil, clockFields?_minutes hhour hminute, hzero.1, hzero.2]
    · rw [if_neg hzero]
      exact clockFields?_seconds hhour hminute hsecond hmicro
  have hseconds : n / 3600000000 * 3600 + n / 60000000 % 60 * 60 + n / 1000000 % 60
      = n / 1000000 := by omega
  have hsign : o.sign ≠ 'Z' := by
    rw [Offset.sign]
    split <;> decide
  rw [offset?, if_neg hsign, hfields]
  simp only [Option.bind_eq_bind, Option.bind_some, hseconds, if_neg Bool.false_ne_true]
  rw [Offset.readBack, ← hn]
  -- hours, minutes and seconds are all zero exactly below a second
  by_cases hlt : n < 1000000
  · rw [if_pos hlt, if_pos (by omega)]
    rfl
  · have hmicros : (if o.sign = '-' then -((n / 1000000 * 1000000 + n % 1000000 : Nat) : Int)
        else ((n / 1000000 * 1000000 + n % 1000000 : Nat) : Int)) = o.micros := by
      rw [Offset.sign]
      by_cases hneg : o.micros < 0
      · rw [if_pos hneg, if_pos rfl]
        omega
      · rw [if_neg hneg, if_neg (by decide)]
        omega
    rw [if_neg hlt, if_neg (by omega), hmicros, Offset.of?_self]

/-! ## Timestamps -/

theorem Date.year_lt (d : Date) : d.year < 10000 := Nat.lt_of_le_of_lt d.year_bounds.2 (by decide)

theorem Date.month_lt (d : Date) : d.month < 100 := Nat.lt_of_le_of_lt d.month_bounds.2 (by decide)

theorem Date.day_lt (d : Date) : d.day < 100 := by
  have hle : daysInMonth d.year d.month ≤ 31 := by
    unfold daysInMonth
    split <;> first | decide | (split <;> decide)
  exact Nat.lt_of_le_of_lt (Nat.le_trans d.day_bounds.2 hle) (by decide)

/-- The fields of a date with the text after it. -/
theorem Date.text_append (d : Date) (rest : List Char) :
    d.text ++ rest = padded 4 d.year ++ '-' :: (padded 2 d.month ++ '-' ::
      (padded 2 d.day ++ rest)) := by
  simp [text]

/-- A number of some width begins with a digit. -/
theorem exists_padded_eq_cons {w n : Nat} (hw : 0 < w) (h : n < Nat.pow 10 w) :
    ∃ c tail, padded w n = c :: tail ∧ c ≠ 'W' := by
  have hlength := Text.length_padded hw h
  obtain ⟨c, tail, htail⟩ := List.exists_cons_of_ne_nil
    (List.ne_nil_of_length_pos (l := padded w n) (by omega))
  refine ⟨c, tail, htail, ?_⟩
  rintro rfl
  have hdigit := Text.isDigit_of_mem_padded (w := w) (n := n) (c := 'W')
    (by rw [htail]; exact List.mem_cons_self)
  cases hdigit

theorem Date.length_text (d : Date) : d.text.length = 10 := by
  have hyear := Text.length_padded (w := 4) (by decide) d.year_lt
  have hmonth := Text.length_padded (w := 2) (by decide) d.month_lt
  have hday := Text.length_padded (w := 2) (by decide) d.day_lt
  have htext := congrArg List.length (d.text_append [])
  simp only [List.append_nil, List.length_append, List.length_cons, hyear, hmonth, hday] at htext
  exact htext

theorem date?_text (d : Date) (rest : List Char) : date? 10 (d.text ++ rest) = some d := by
  have hmonth := number?_padded (w := 2) (by decide) d.month_lt
    ('-' :: (padded 2 d.day ++ rest))
  have hday := number?_padded (w := 2) (by decide) d.day_lt rest
  obtain ⟨c, tail, htail, hc⟩ := exists_padded_eq_cons (w := 2) (by decide) d.month_lt
  rw [date?, d.text_append, number?_padded (by decide) d.year_lt]
  simp only [Option.bind_eq_bind, Option.bind_some, List.head?_cons]
  rw [htail, List.cons_append] at hmonth ⊢
  have hdashed : (some '-' == some '-') = true := rfl
  simp only [List.drop_one, List.tail_cons, hdashed, if_true]
  split
  · rename_i heq
    exact absurd (List.cons.inj heq).1 hc
  · rw [hmonth]
    simp only [Option.bind_some, expect?, if_true, hday]
    exact d.of?_self

theorem dateLength?_text (d : Date) {rest : List Char} (h : rest ≠ []) :
    dateLength? (d.text ++ rest) = some 10 := by
  have hlength : 10 < (d.text ++ rest).length := by
    have hrest := List.length_pos_iff.2 h
    rw [List.length_append, d.length_text]
    omega
  have hyear := Text.length_padded (w := 4) (by decide) d.year_lt
  obtain ⟨c, tail, htail, hc⟩ := exists_padded_eq_cons (w := 2) (by decide) d.month_lt
  -- it is a date with dashes, and none with a week
  have hdash : (d.text ++ rest)[4]? = some '-' := by
    rw [d.text_append, List.getElem?_append_right (by omega), hyear]
    rfl
  have hweek : (d.text ++ rest)[5]? ≠ some 'W' := by
    rw [d.text_append, List.getElem?_append_right (by omega), hyear, htail]
    exact fun heq => hc (Option.some.inj heq)
  rw [dateLength?]
  simp only [hdash, hweek, if_true, if_false, if_neg (show ¬(d.text ++ rest).length < 7 by omega),
    if_neg (show ¬(d.text ++ rest).length = 7 by omega)]

theorem Clock.text_eq (c : Clock) : c.text = padded 2 c.hour ++ ':' :: (padded 2 c.minute ++
    ':' :: (padded 2 c.second ++ fractionText c.micro)) := by
  simp [text]

theorem of_mem_fractionText {micro : Nat} {x : Char} (h : x ∈ fractionText micro) :
    x.isDigit = true ∨ x = '.' := by
  rw [fractionText] at h
  split at h
  · cases h
  · rcases List.mem_cons.1 h with rfl | h
    · exact Or.inr rfl
    · exact Or.inl (Text.isDigit_of_mem_padded h)

/-- Two fields with a colon between them. -/
theorem of_mem_field {n : Nat} {rest : List Char} {x : Char}
    (h : x ∈ padded 2 n ++ ':' :: rest) : x.isDigit = true ∨ x = ':' ∨ x ∈ rest := by
  rcases List.mem_append.1 h with h | h
  · exact Or.inl (Text.isDigit_of_mem_padded h)
  · exact Or.inr (List.mem_cons.1 h)

/-- The characters of fields with a fraction. -/
theorem of_mem_fields {second micro : Nat} {x : Char}
    (h : x ∈ padded 2 second ++ fractionText micro) :
    x.isDigit = true ∨ x = ':' ∨ x = '.' := by
  rcases List.mem_append.1 h with h | h
  · exact Or.inl (Text.isDigit_of_mem_padded h)
  · exact (of_mem_fractionText h).imp_right Or.inr

/-- The characters of hours, minutes and what comes after them. -/
theorem of_mem_clock {hour minute : Nat} {rest : List Char} {x : Char}
    (hrest : x ∈ rest → x.isDigit = true ∨ x = ':' ∨ x = '.')
    (h : x ∈ padded 2 hour ++ ':' :: (padded 2 minute ++ ':' :: rest)) :
    x.isDigit = true ∨ x = ':' ∨ x = '.' := by
  rcases of_mem_field h with h | h | h
  · exact Or.inl h
  · exact Or.inr (Or.inl h)
  · rcases of_mem_field h with h | h | h
    · exact Or.inl h
    · exact Or.inr (Or.inl h)
    · exact hrest h

theorem Clock.of_mem_text {c : Clock} {x : Char} (h : x ∈ c.text) :
    x.isDigit = true ∨ x = ':' ∨ x = '.' := by
  rw [c.text_eq] at h
  exact of_mem_clock of_mem_fields h

theorem Offset.of_mem_fieldsText {n : Nat} {x : Char} (h : x ∈ Offset.fieldsText n) :
    x.isDigit = true ∨ x = ':' ∨ x = '.' := by
  rw [Offset.fieldsText] at h
  rcases of_mem_field h with h | h | h
  · exact Or.inl h
  · exact Or.inr (Or.inl h)
  · rcases List.mem_append.1 h with h | h
    · exact Or.inl (Text.isDigit_of_mem_padded h)
    · split at h
      · cases h
      · rcases List.mem_cons.1 h with h | h
        · exact Or.inr (Or.inl h)
        · exact of_mem_fields h

/-- The distance at the end of a timestamp, or nothing. -/
def offsetText (offset : Option Offset) : List Char := (offset.map Offset.text).getD []

theorem Timestamp.textWith_eq (separator : Char) (t : Timestamp) :
    t.textWith separator
      = t.date.text ++ separator :: (t.clock.text ++ offsetText t.offset) := by
  simp [textWith, offsetText]

/-! ### The normal form -/

theorem dot_not_mem_padded (w n : Nat) : '.' ∉ padded w n := by
  intro h
  cases Text.isDigit_of_mem_padded h

theorem normalizeFraction_cons {x : Char} {rest : List Char} (hx : x ≠ '.')
    (h : normalizeFraction rest = rest) : normalizeFraction (x :: rest) = x :: rest := by
  have hdot : '.' ∉ [x] := by simpa using Ne.symm hx
  have happend := normalizeFraction_append hdot rest
  rw [h] at happend
  exact happend

theorem normalizeFraction_padded {w n : Nat} {rest : List Char}
    (h : normalizeFraction rest = rest) :
    normalizeFraction (padded w n ++ rest) = padded w n ++ rest := by
  rw [normalizeFraction_append (dot_not_mem_padded w n), h]

theorem normalizeFraction_offsetText (offset : Option Offset) :
    normalizeFraction (offsetText offset) = offsetText offset := by
  cases offset with
  | none => rfl
  | some o =>
    have hsign : o.sign ≠ '.' := by
      rw [Offset.sign]
      split <;> decide
    have hfraction : normalizeFraction (fractionText (o.micros.natAbs % 1000000) ++ [])
        = fractionText (o.micros.natAbs % 1000000) ++ [] :=
      normalizeFraction_fractionText (by omega) rfl rfl
    rw [List.append_nil] at hfraction
    rw [offsetText, Option.map_some, Option.getD_some, o.text_eq, Offset.fieldsText]
    refine normalizeFraction_cons hsign (normalizeFraction_padded
      (normalizeFraction_cons (by decide) (normalizeFraction_padded ?_)))
    split
    · rfl
    · exact normalizeFraction_cons (by decide) (normalizeFraction_padded hfraction)

/-- No digit comes after a fraction. -/
theorem dropWhile_offsetText (offset : Option Offset) :
    (offsetText offset).dropWhile Text.isDecimalDigit = offsetText offset := by
  cases offset with
  | none => rfl
  | some o =>
    have hsign : Text.isDecimalDigit o.sign = false := by
      rw [Offset.sign]
      split <;> decide
    rw [offsetText, Option.map_some, Option.getD_some, o.text_eq, List.dropWhile_cons, hsign,
      if_neg Bool.false_ne_true]

theorem normalizeFraction_textWith {separator : Char} (hseparator : separator ≠ '.')
    (t : Timestamp) : normalizeFraction (t.textWith separator) = t.textWith separator := by
  have hclock := normalizeFraction_fractionText t.clock.micro_lt
    (dropWhile_offsetText t.offset) (normalizeFraction_offsetText t.offset)
  rw [t.textWith_eq, t.date.text_append, t.clock.text_eq]
  simp only [List.append_assoc, List.cons_append]
  refine normalizeFraction_padded (normalizeFraction_cons (by decide) (normalizeFraction_padded
    (normalizeFraction_cons (by decide) (normalizeFraction_padded
      (normalizeFraction_cons hseparator ?_)))))
  exact normalizeFraction_padded (normalizeFraction_cons (by decide) (normalizeFraction_padded
    (normalizeFraction_cons (by decide) (normalizeFraction_padded hclock))))

/-- After the separator there are no letters. -/
theorem of_mem_time {t : Timestamp} {x : Char} (h : x ∈ t.clock.text ++ offsetText t.offset) :
    x.isDigit = true ∨ x ∈ [':', '.', '+', '-'] := by
  have hfields : (x.isDigit = true ∨ x = ':' ∨ x = '.') →
      x.isDigit = true ∨ x ∈ [':', '.', '+', '-'] := by
    rintro (h | rfl | rfl)
    · exact Or.inl h
    · exact Or.inr (by decide)
    · exact Or.inr (by decide)
  rcases List.mem_append.1 h with h | h
  · exact hfields (Clock.of_mem_text h)
  · cases ho : t.offset with
    | none =>
      rw [ho] at h
      cases h
    | some o =>
      rw [ho, offsetText, Option.map_some, Option.getD_some, o.text_eq] at h
      rcases List.mem_cons.1 h with rfl | h
      · rw [Offset.sign]
        split <;> exact Or.inr (by decide)
      · exact hfields (Offset.of_mem_fieldsText h)

/-- Text that has no `Z` at its end stays. -/
theorem expandZulu_append (pre : List Char) {tail : List Char} (hne : tail ≠ [])
    (htail : ∀ x ∈ tail, x ≠ 'Z' ∧ x ≠ 'z') : expandZulu (pre ++ tail) = pre ++ tail := by
  have hlast : (pre ++ tail).getLast? = tail.getLast? := by
    rw [List.getLast?_append, List.getLast?_eq_some_getLast hne, Option.some_or]
  rw [expandZulu, hlast]
  split
  · rename_i h
    exact absurd rfl (htail 'Z' (List.mem_of_getLast? h)).1
  · rename_i h
    exact absurd rfl (htail 'z' (List.mem_of_getLast? h)).2
  · rfl

theorem expandZulu_textWith (separator : Char) (t : Timestamp) :
    expandZulu (t.textWith separator) = t.textWith separator := by
  have hne : t.clock.text ++ offsetText t.offset ≠ [] := by
    rw [t.clock.text_eq]
    simp only [List.append_assoc]
    exact padded_append_ne_nil (by have := t.clock.hour_lt; omega) _
  have hsplit : t.textWith separator
      = (t.date.text ++ [separator]) ++ (t.clock.text ++ offsetText t.offset) := by
    rw [t.textWith_eq, List.append_assoc]
    rfl
  rw [hsplit]
  refine expandZulu_append _ hne fun x hx => ⟨?_, ?_⟩ <;> rintro rfl <;>
    exact absurd (of_mem_time hx) (by decide)

theorem normalize_textWith {separator : Char} (hseparator : separator ≠ '.') (t : Timestamp) :
    normalize (t.textWith separator) = t.textWith separator := by
  rw [normalize, expandZulu_textWith, normalizeFraction_textWith hseparator]

/-! ### The reading -/

theorem isTimeChar_of_field {x : Char} (h : x.isDigit = true ∨ x = ':' ∨ x = '.') :
    isTimeChar x = true := by
  have hother : ∀ y ∈ ['+', '-', 'Z'], x ≠ y := by
    rintro y hy rfl
    simp only [List.mem_cons, List.not_mem_nil, or_false] at hy
    rcases hy with rfl | rfl | rfl <;> rcases h with h | h | h <;> cases h
  simp [isTimeChar, hother]

/-- A time of day and the distance after it are read apart. -/
theorem clock?_append {time : List Char} {sign : Char} {f : ClockFields} {c : Clock}
    (htime : ∀ x ∈ time, isTimeChar x = true) (hsign : isTimeChar sign = false)
    (hfields : clockFields? time = some f)
    (hclock : Clock.of? f.hour f.minute f.second f.micro = some c) (rest : List Char) :
    clock? (time ++ sign :: rest) = (offset? sign rest).map fun o => (c, some o) := by
  rw [clock?, List.takeWhile_append_of_pos htime, List.takeWhile_cons, hsign,
    if_neg Bool.false_ne_true, List.append_nil, hfields]
  simp only [Option.bind_eq_bind, Option.bind_some, hclock]
  rw [List.dropWhile_append_of_pos htime, List.dropWhile_cons, hsign, if_neg Bool.false_ne_true,
    Option.map_eq_bind]
  rfl

theorem clock?_text (c : Clock) (offset : Option Offset) :
    clock? (c.text ++ offsetText offset) = some (c, offset.map Offset.readBack) := by
  have htime : ∀ x ∈ c.text, isTimeChar x = true := fun x hx =>
    isTimeChar_of_field (c.of_mem_text hx)
  have hfields : clockFields? c.text = some ⟨c.hour, c.minute, c.second, c.micro, false⟩ := by
    rw [c.text_eq, clockFields?_seconds c.hour_lt c.minute_lt c.second_lt c.micro_lt]
  have hself : Clock.of? c.hour c.minute c.second c.micro = some c := c.of?_self
  cases offset with
  | none =>
    rw [offsetText, Option.map_none, Option.getD_none, clock?, List.takeWhile_append_of_pos htime,
      List.takeWhile_nil, List.append_nil, hfields]
    have hrest : (c.text ++ []).dropWhile isTimeChar = [] := List.dropWhile_append_of_pos htime
    rw [List.append_nil] at hrest
    simp only [Option.bind_eq_bind, Option.bind_some, hself, hrest]
    rfl
  | some o =>
    have hsign : isTimeChar o.sign = false := by
      rw [Offset.sign]
      split <;> rfl
    rw [offsetText, Option.map_some, Option.getD_some, o.text_eq,
      clock?_append htime hsign hfields hself, offset?_text o]
    rfl

/-- The date is read off the front, and the rest after one character. -/
theorem readIso?_append (d : Date) (separator : Char) {rest : List Char} {c : Clock}
    {offset : Option Offset} (h : clock? rest = some (c, offset)) :
    readIso? (d.text ++ separator :: rest) = some ⟨d, c, offset⟩ := by
  have hlong : ¬(d.text ++ separator :: rest).length ≤ 10 := by
    rw [List.length_append, d.length_text, List.length_cons]
    omega
  have hdrop : (d.text ++ separator :: rest).drop (10 + 1) = rest := by
    rw [List.drop_append, List.drop_of_length_le (by rw [d.length_text]; decide), d.length_text]
    rfl
  rw [readIso?, dateLength?_text d (List.cons_ne_nil _ _)]
  simp only [date?_text, Option.bind_eq_bind, Option.bind_some, if_neg hlong, hdrop, h]
  rfl

/-- What is read back of a timestamp: all but a distance of less than a second. -/
def Timestamp.readBack (t : Timestamp) : Timestamp :=
  { t with offset := t.offset.map Offset.readBack }

/-- **Timestamps are read back.**  The text of a timestamp, with any separator between date and time
that begins no fraction, is read as the timestamp, but for a distance from universal time of less
than a second. -/
theorem Timestamp.read?_textWith {separator : Char} (hseparator : separator ≠ '.')
    (t : Timestamp) : read? (String.ofList (t.textWith separator)) = some t.readBack := by
  rw [read?, String.toList_ofList, normalize_textWith hseparator, t.textWith_eq,
    readIso?_append t.date separator (clock?_text t.clock t.offset)]
  rfl

/-- A timestamp is read back as itself unless its distance from universal time is lost. -/
theorem Timestamp.readBack_eq_self_iff {t : Timestamp} :
    t.readBack = t ↔ ∀ o, t.offset = some o → o.micros = 0 ∨ 1000000 ≤ o.micros.natAbs := by
  obtain ⟨date, clock, offset⟩ := t
  cases offset with
  | none => exact iff_of_true rfl fun o ho => by cases ho
  | some o =>
    rw [readBack]
    simp only [Option.map_some, mk.injEq, true_and, Option.some.injEq, forall_eq']
    exact Offset.readBack_eq_self_iff

end Time

end CloudEvents
