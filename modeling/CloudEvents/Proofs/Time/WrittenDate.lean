import CloudEvents.Proofs.Text.Trim
import CloudEvents.Proofs.Time.Rfc3339
/-!
# Dates as they may be written

A timestamp begins with a date in one of six forms: year, month and day, or year, week and day of
the week, of which the day may be missing; each with dashes between the fields or without. What the
reader takes for the date is one of these forms, to the character (`exists_writtenDate`), and a sign
after a date does not go with it (`WrittenDate.dateLength?_append`).

## Main statements

* `Text.natOfDigits_injective`, `eq_padded_append_of_number?`: a number of some width has one text;
* `exists_writtenDate`: what is read as a date;
* `dateLength?_append_cons`: how far a date goes does not depend on what comes long after it.
-/

namespace CloudEvents

namespace Text

theorem natOfDigits_cons (c : Char) (rest : List Char) :
    natOfDigits (c :: rest) = Nat.pow 10 rest.length * (c.toNat - 48) + natOfDigits rest := by
  have happend := natOfDigits_append [c] rest
  rw [List.singleton_append] at happend
  rw [happend]
  change _ * (10 * 0 + (c.toNat - 48)) + _ = _
  rw [Nat.mul_zero, Nat.zero_add]

/-- Digits are told by their number and how many they are. -/
theorem natOfDigits_injective {ds es : List Char} (hds : ∀ c ∈ ds, c.isDigit = true)
    (hes : ∀ c ∈ es, c.isDigit = true) (hlength : ds.length = es.length)
    (h : natOfDigits ds = natOfDigits es) : ds = es := by
  induction ds generalizing es with
  | nil => exact (List.eq_nil_of_length_eq_zero hlength.symm).symm
  | cons c rest ih =>
    obtain ⟨d, rest', rfl⟩ := List.exists_cons_of_length_eq_add_one hlength.symm
    have hlength' : rest.length = rest'.length := Nat.succ.inj hlength
    have hrest := natOfDigits_lt fun x hx => hds x (List.mem_cons_of_mem c hx)
    have hrest' := natOfDigits_lt fun x hx => hes x (List.mem_cons_of_mem d hx)
    rw [natOfDigits_cons, natOfDigits_cons, hlength'] at h
    rw [hlength'] at hrest
    have hdiv := congrArg (· / Nat.pow 10 rest'.length) h
    have hmod := congrArg (· % Nat.pow 10 rest'.length) h
    simp only [Nat.mul_add_div (Nat.zero_lt_of_lt hrest), Nat.div_eq_of_lt hrest,
      Nat.div_eq_of_lt hrest', Nat.add_zero] at hdiv
    simp only [Nat.mul_add_mod, Nat.mod_eq_of_lt hrest, Nat.mod_eq_of_lt hrest'] at hmod
    have hbounds : ∀ {x : Char}, x.isDigit = true → 48 ≤ x.toNat := fun hx => by
      rw [Char.isDigit, Bool.and_eq_true, decide_eq_true_eq] at hx
      exact hx.1
    have hc := hbounds (hds c List.mem_cons_self)
    have hd := hbounds (hes d List.mem_cons_self)
    have hself : c = d := Char.toNat_inj.1 (by omega)
    rw [hself, ih (fun x hx => hds x (List.mem_cons_of_mem c hx))
      (fun x hx => hes x (List.mem_cons_of_mem d hx)) hlength' hmod]

end Text

namespace Time

open Text (padded natOfDigits)

/-- What is read as a number are digits. -/
theorem of_number? {n v : Nat} {cs rest : List Char} (h : number? n cs = some (v, rest)) :
    (cs.take n).length = n ∧ (∀ c ∈ cs.take n, c.isDigit = true) ∧ natOfDigits (cs.take n) = v ∧
      cs.drop n = rest := by
  rw [number?] at h
  split at h
  · rename_i hdigits
    obtain ⟨hv, hrest⟩ := Prod.mk.inj (Option.some.inj h)
    exact ⟨hdigits.1, List.all_eq_true.1 hdigits.2, hv, hrest⟩
  · cases h

/-- What is read as a number is its text. -/
theorem eq_padded_append_of_number? {w v : Nat} (hw : 0 < w) {cs rest : List Char}
    (h : number? w cs = some (v, rest)) : v < Nat.pow 10 w ∧ cs = padded w v ++ rest := by
  obtain ⟨hlength, hdigits, hv, hrest⟩ := of_number? h
  have hlt : v < Nat.pow 10 w := by
    rw [← hv, ← congrArg (Nat.pow 10) hlength]
    exact Text.natOfDigits_lt hdigits
  have hself : padded w v = cs.take w := by
    refine Text.natOfDigits_injective (fun c hc => Text.isDigit_of_mem_padded hc) hdigits ?_ ?_
    · rw [Text.length_padded hw hlt, hlength]
    · rw [Text.natOfDigits_padded, hv]
  refine ⟨hlt, ?_⟩
  rw [hself, ← hrest, List.take_append_drop]

/-! ## The forms of a date -/

/-- A dash between fields, or nothing. -/
def dash (dashed : Bool) : List Char := if dashed then ['-'] else []

/-- A date as it is written. -/
inductive WrittenDate where
  /-- Year, month and day. -/
  | calendar (dashed : Bool) (date : Date)
  /-- Year, week and day of the week, which is Monday if it is missing. -/
  | week (dashed : Bool) (year week : Nat) (weekday : Option Nat) (date : Date)
      (ofWeek : Date.ofWeek? year week (weekday.getD 1) = some date)

namespace WrittenDate

/-- The date that is meant. -/
def date : WrittenDate → Date
  | calendar _ date => date
  | week _ _ _ _ date _ => date

/-- The text of a date. -/
def text : WrittenDate → List Char
  | calendar dashed date => padded 4 date.year ++ (dash dashed ++
      (padded 2 date.month ++ (dash dashed ++ padded 2 date.day)))
  | week dashed year n weekday _ _ => padded 4 year ++ (dash dashed ++ 'W' ::
      (padded 2 n ++ weekday.elim [] fun day => dash dashed ++ padded 1 day))

/-- The number of its characters. -/
def length : WrittenDate → Nat
  | calendar dashed _ => 8 + 2 * (dash dashed).length
  | week dashed _ _ weekday _ _ =>
    7 + (dash dashed).length + weekday.elim 0 fun _ => 1 + (dash dashed).length

end WrittenDate

theorem Date.bounds_of_ofWeek? {year week weekday : Nat} {d : Date}
    (h : Date.ofWeek? year week weekday = some d) : year < 10000 ∧ week < 100 ∧ weekday < 10 := by
  rw [ofWeek?] at h
  split at h
  · rename_i hbounds
    have hweeks : weeksInYear year ≤ 53 := by
      rw [weeksInYear]
      split <;> decide
    omega
  · cases h

theorem WrittenDate.length_text (w : WrittenDate) : w.text.length = w.length := by
  cases w with
  | calendar dashed d =>
    simp only [text, length, List.length_append, Text.length_padded (w := 4) (by decide) d.year_lt,
      Text.length_padded (w := 2) (by decide) d.month_lt,
      Text.length_padded (w := 2) (by decide) d.day_lt]
    omega
  | week dashed year n weekday d h =>
    obtain ⟨hyear, hn, hday⟩ := Date.bounds_of_ofWeek? h
    have hhead : (padded 4 year ++ (dash dashed ++ 'W' :: padded 2 n)).length
        = 7 + (dash dashed).length := by
      simp only [List.length_append, List.length_cons,
        Text.length_padded (w := 4) (by decide) hyear, Text.length_padded (w := 2) (by decide) hn]
      omega
    cases weekday with
    | none => simpa [text, length] using hhead
    | some day =>
      rw [length, ← hhead, Option.elim_some, ← Text.length_padded (w := 1) (by decide) hday]
      simp only [text, Option.elim_some, Option.getD_some, List.length_append, List.length_cons]
      omega

/-- How long a date is, by the characters after the year. -/
theorem of_dateLength? {cs : List Char} {n : Nat} (h : dateLength? cs = some n) :
    cs.length = 7 ∧ n = 7 ∨
      cs[4]? = some '-' ∧ cs[5]? = some 'W' ∧ (n = 8 ∨ n = 10) ∨
      cs[4]? = some '-' ∧ cs[5]? ≠ some 'W' ∧ n = 10 ∨
      cs[4]? = some 'W' ∧ (n = 7 ∨ n = 8) ∨
      cs[4]? ≠ some '-' ∧ cs[4]? ≠ some 'W' ∧ n = 8 := by
  have hparity : ∀ p : Nat, 7 ≤ p →
      (if p < 9 then p else if p % 2 = 0 then 7 else 8) = 7 ∨
        (if p < 9 then p else if p % 2 = 0 then 7 else 8) = 8 := fun p hp => by
    split
    · omega
    · split
      · exact Or.inl rfl
      · exact Or.inr rfl
  rw [dateLength?] at h
  split at h
  · cases h
  · split at h
    · exact Or.inl ⟨by assumption, (Option.some.inj h).symm⟩
    · split at h
      · rename_i hdash
        split at h
        · rename_i hweek
          refine Or.inr (Or.inl ⟨hdash, hweek, ?_⟩)
          grind
        · rename_i hweek
          exact Or.inr (Or.inr (Or.inl ⟨hdash, hweek, (Option.some.inj h).symm⟩))
      · rename_i hdash
        split at h
        · rename_i hweek
          obtain rfl := Option.some.inj h
          exact Or.inr (Or.inr (Or.inr (Or.inl ⟨hweek, hparity _ (Nat.le_add_right 7 _)⟩)))
        · rename_i hweek
          exact Or.inr (Or.inr (Or.inr (Or.inr ⟨hdash, hweek, (Option.some.inj h).symm⟩)))

/-! ## Reading a date -/

/-- The dash that is asked for is taken off. -/
theorem exists_of_dash {α : Type} {dashed : Bool} {cs : List Char} {k : List Char → Option α}
    {a : α} (h : (if dashed then (expect? '-' cs).bind k else k cs) = some a) :
    ∃ rest, cs = dash dashed ++ rest ∧ k rest = some a := by
  cases dashed with
  | false => exact ⟨cs, rfl, h⟩
  | true =>
    rw [if_pos rfl, Option.bind_eq_some_iff] at h
    obtain ⟨rest, hrest, h⟩ := h
    cases cs with
    | nil => cases hrest
    | cons c tail =>
      rw [expect?] at hrest
      split at hrest
      · rename_i hc
        rw [hc, Option.some.inj hrest]
        exact ⟨rest, rfl, h⟩
      · cases hrest

theorem Date.of_of? {year month day : Nat} {d : Date} (h : Date.of? year month day = some d) :
    d.year = year ∧ d.month = month ∧ d.day = day := by
  rw [of?] at h
  split at h
  · rw [← Option.some.inj h]
    exact ⟨rfl, rfl, rfl⟩
  · cases h

/-- What is read after the letter of a week. -/
theorem exists_of_week? {year : Nat} {dashed withDay : Bool} {cs : List Char} {d : Date}
    (h : week? year dashed withDay cs = some d) : ∃ (n : Nat) (weekday : Option Nat) (rest : _),
      Date.ofWeek? year n (weekday.getD 1) = some d ∧ weekday.isSome = withDay ∧
      cs = padded 2 n ++ ((weekday.elim [] fun day => dash dashed ++ padded 1 day) ++ rest) := by
  rw [week?] at h
  simp only [Option.bind_eq_bind, Option.bind_eq_some_iff] at h
  obtain ⟨⟨n, rest⟩, hn, h⟩ := h
  obtain ⟨-, hcs⟩ := eq_padded_append_of_number? (by decide) hn
  cases withDay with
  | false => exact ⟨n, none, rest, h, rfl, hcs⟩
  | true =>
    obtain ⟨rest', hdash, h⟩ := exists_of_dash
      (k := fun rest => (number? 1 rest).bind fun day => Date.ofWeek? year n day.1) h
    change rest = _ at hdash
    simp only [Option.bind_eq_some_iff] at h
    obtain ⟨⟨day, rest''⟩, hday, h⟩ := h
    obtain ⟨-, hrest'⟩ := eq_padded_append_of_number? (by decide) hday
    refine ⟨n, some day, rest'', h, rfl, ?_⟩
    rw [hcs, hdash, hrest', Option.elim_some, List.append_assoc]

theorem exists_dash_append (cs : List Char) : ∃ dashed tail, cs = dash dashed ++ tail ∧
    (dashed = true ∨ tail.head? ≠ some '-') := by
  by_cases h : cs.head? = some '-'
  · obtain ⟨tail, rfl⟩ := List.head?_eq_some_iff.1 h
    exact ⟨true, tail, rfl, Or.inl rfl⟩
  · exact ⟨false, cs, rfl, Or.inr h⟩

/-- After the year, the letter of a week says what comes. -/
theorem date?_week {year : Nat} (hyear : year < 10000) (n : Nat) (dashed : Bool) (cs : List Char) :
    date? n (padded 4 year ++ (dash dashed ++ 'W' :: cs))
      = week? year dashed (7 + (dash dashed).length < n) cs := by
  rw [date?, number?_padded (by decide) hyear]
  cases dashed <;> rfl

/-- After the year, two fields come if no letter of a week does. -/
theorem date?_fields {year : Nat} (hyear : year < 10000) (n : Nat) {dashed : Bool}
    {tail : List Char} (hdash : dashed = true ∨ tail.head? ≠ some '-')
    (hweek : tail.head? ≠ some 'W') :
    date? n (padded 4 year ++ (dash dashed ++ tail)) = (number? 2 tail).bind fun month =>
      if dashed then (expect? '-' month.2).bind fun rest =>
        (number? 2 rest).bind fun day => Date.of? year month.1 day.1
      else (number? 2 month.2).bind fun day => Date.of? year month.1 day.1 := by
  have hdashed : ((dash dashed ++ tail).head? == some '-') = dashed := by
    cases dashed with
    | true => rfl
    | false => exact beq_eq_false_iff_ne.2 (hdash.resolve_left Bool.false_ne_true)
  have htail : (if dashed = true then (dash dashed ++ tail).drop 1 else dash dashed ++ tail)
      = tail := by
    cases dashed <;> rfl
  rw [date?, number?_padded (by decide) hyear]
  simp only [Option.bind_eq_bind, Option.bind_some, hdashed, htail]
  split
  · exact absurd rfl hweek
  · rfl

theorem getElem?_year {year : Nat} (hyear : year < 10000) (i : Nat) (rest : List Char) :
    (padded 4 year ++ rest)[4 + i]? = rest[i]? := by
  have hlength := Text.length_padded (w := 4) (by decide) hyear
  rw [List.getElem?_append_right (by omega), hlength, Nat.add_sub_cancel_left]

/-- A date with a week goes on to the day of the week or not. -/
theorem of_dateLength?_week {year n : Nat} (hyear : year < 10000) {dashed : Bool} {rest : List Char}
    (hrest : 2 ≤ rest.length)
    (h : dateLength? (padded 4 year ++ (dash dashed ++ 'W' :: rest)) = some n) :
    n = 7 + (dash dashed).length ∨ n = 8 + 2 * (dash dashed).length := by
  have hlength := Text.length_padded (w := 4) (by decide) hyear
  have hcases := of_dateLength? h
  rw [getElem?_year hyear 0, getElem?_year hyear 1] at hcases
  cases dashed with
  | false =>
    simp [dash, hlength] at hcases ⊢
    omega
  | true =>
    simp [dash, hlength] at hcases ⊢
    omega

/-- A date without a week has its month and its day. -/
theorem of_dateLength?_fields {year n : Nat} (hyear : year < 10000) {dashed : Bool}
    {tail : List Char} (hdash : dashed = true ∨ tail.head? ≠ some '-')
    (hweek : tail.head? ≠ some 'W') (htail : 4 ≤ tail.length)
    (h : dateLength? (padded 4 year ++ (dash dashed ++ tail)) = some n) :
    n = 8 + 2 * (dash dashed).length := by
  have hlength := Text.length_padded (w := 4) (by decide) hyear
  have hcases := of_dateLength? h
  rw [getElem?_year hyear 0, getElem?_year hyear 1] at hcases
  rw [List.head?_eq_getElem?] at hdash hweek
  cases dashed with
  | false =>
    have hnone : tail[0]? ≠ some '-' := hdash.resolve_left Bool.false_ne_true
    simp [dash, hlength, hnone, hweek] at hcases ⊢
    omega
  | true =>
    simp [dash, hlength, hweek] at hcases ⊢
    omega

/-- What is read as a date has one of its forms, to the last character. -/
theorem exists_writtenDate {n : Nat} {cs : List Char} {d : Date} (hlength : dateLength? cs = some n)
    (h : date? n cs = some d) :
    ∃ (w : WrittenDate) (rest : List Char), w.date = d ∧ w.text.length = n ∧
      cs = w.text ++ rest := by
  obtain ⟨⟨year, rest⟩, hyear, -⟩ := Option.bind_eq_some_iff.1 (h : (number? 4 cs).bind _ = some d)
  obtain ⟨hyear_lt, rfl⟩ := eq_padded_append_of_number? (by decide) hyear
  obtain ⟨dashed, tail, rfl, hdash⟩ := exists_dash_append rest
  by_cases hweek : tail.head? = some 'W'
  · obtain ⟨s, rfl⟩ := List.head?_eq_some_iff.1 hweek
    rw [date?_week hyear_lt] at h
    obtain ⟨m, weekday, rest', hof, hday, rfl⟩ := exists_of_week? h
    have hm := Text.length_padded (w := 2) (by decide) (Date.bounds_of_ofWeek? hof).2.1
    have hn := of_dateLength?_week hyear_lt (by rw [List.length_append]; omega) hlength
    refine ⟨.week dashed year m weekday d hof, rest', rfl, ?_, ?_⟩
    · rw [WrittenDate.length_text, WrittenDate.length]
      cases weekday with
      | none =>
        have hshort : ¬7 + (dash dashed).length < n := of_decide_eq_false hday.symm
        rw [Option.elim_none]
        omega
      | some day =>
        have hlong : 7 + (dash dashed).length < n := of_decide_eq_true hday.symm
        rw [Option.elim_some]
        omega
    · simp [WrittenDate.text]
  · rw [date?_fields hyear_lt n hdash hweek] at h
    obtain ⟨⟨month, rest'⟩, hmonth, hrest⟩ := Option.bind_eq_some_iff.1 h
    obtain ⟨rest'', hrest', hlast⟩ := exists_of_dash hrest
    obtain ⟨⟨day, rest'''⟩, hday, hof⟩ := Option.bind_eq_some_iff.1 hlast
    obtain ⟨hmonth_lt, rfl⟩ := eq_padded_append_of_number? (by decide) hmonth
    obtain ⟨hday_lt, rfl⟩ := eq_padded_append_of_number? (by decide) hday
    obtain ⟨rfl, rfl, rfl⟩ := Date.of_of? hof
    change rest' = _ at hrest'
    have hm := Text.length_padded (w := 2) (by decide) hmonth_lt
    have hd := Text.length_padded (w := 2) (by decide) hday_lt
    refine ⟨.calendar dashed d, rest''', rfl, ?_, ?_⟩
    · rw [WrittenDate.length_text, WrittenDate.length]
      refine (of_dateLength?_fields hyear_lt hdash hweek ?_ hlength).symm
      rw [hrest', List.length_append, List.length_append, List.length_append]
      omega
    · simp [WrittenDate.text, hrest']

theorem WrittenDate.of_mem_text {w : WrittenDate} {c : Char} (h : c ∈ w.text) :
    c.isDigit = true ∨ c = '-' ∨ c = 'W' := by
  have hdash : ∀ {dashed}, c ∈ dash dashed → c = '-' := fun {dashed} hc => by
    cases dashed with
    | false => cases hc
    | true => exact List.mem_singleton.1 hc
  cases w with
  | calendar dashed d =>
    simp only [text, List.mem_append] at h
    rcases h with h | h | h | h | h
    · exact Or.inl (Text.isDigit_of_mem_padded h)
    · exact Or.inr (Or.inl (hdash h))
    · exact Or.inl (Text.isDigit_of_mem_padded h)
    · exact Or.inr (Or.inl (hdash h))
    · exact Or.inl (Text.isDigit_of_mem_padded h)
  | week dashed year n weekday d hof =>
    simp only [text, List.mem_append, List.mem_cons] at h
    rcases h with h | h | rfl | h | h
    · exact Or.inl (Text.isDigit_of_mem_padded h)
    · exact Or.inr (Or.inl (hdash h))
    · exact Or.inr (Or.inr rfl)
    · exact Or.inl (Text.isDigit_of_mem_padded h)
    · cases weekday with
      | none => cases h
      | some day =>
        rcases List.mem_append.1 h with h | h
        · exact Or.inr (Or.inl (hdash h))
        · exact Or.inl (Text.isDigit_of_mem_padded h)

/-! ## The length of a date -/

theorem exists_padded_one {n : Nat} (h : n < 10) : ∃ a, padded 1 n = [a] ∧ a.isDigit = true := by
  obtain ⟨a, hpadded⟩ := List.length_eq_one_iff.1 (Text.length_padded (w := 1) (by decide) h)
  exact ⟨a, hpadded, Text.isDigit_of_mem_padded (w := 1) (n := n) (by rw [hpadded]; simp)⟩

theorem exists_padded_four {n : Nat} (h : n < 10000) :
    ∃ a b c d, padded 4 n = [a, b, c, d] := by
  have hlength := Text.length_padded (w := 4) (by decide) h
  match hpadded : padded 4 n, hlength with
  | [a, b, c, d], _ => exact ⟨a, b, c, d, rfl⟩

/-- A sign does not go with the date before it. -/
theorem WrittenDate.dateLength?_append (w : WrittenDate) (rest : List Char) :
    dateLength? (w.text ++ '+' :: rest) = some w.length := by
  cases w with
  | calendar dashed date =>
    obtain ⟨a, b, c, d, hyear⟩ := exists_padded_four date.year_lt
    obtain ⟨e, f, hmonth, he, -⟩ := exists_padded_two date.month_lt
    obtain ⟨g, h, hday, -⟩ := exists_padded_two date.day_lt
    have hdash : e ≠ '-' := fun heq => by
      rw [heq] at he
      exact absurd he (by decide)
    have hweek : e ≠ 'W' := fun heq => by
      rw [heq] at he
      exact absurd he (by decide)
    cases dashed <;>
      simp [text, length, dash, hyear, hmonth, hday, dateLength?, hdash, hweek]
  | week dashed year n weekday date h =>
    obtain ⟨hyear_lt, hn_lt, hday_lt⟩ := Date.bounds_of_ofWeek? h
    obtain ⟨a, b, c, d, hyear⟩ := exists_padded_four hyear_lt
    obtain ⟨e, f, hn, -⟩ := exists_padded_two hn_lt
    cases weekday with
    | none =>
      cases dashed <;>
        simp [text, length, dash, hyear, hn, dateLength?]
    | some day =>
      obtain ⟨g, hday, hg⟩ := exists_padded_one (n := day) hday_lt
      cases dashed <;>
        simp [text, length, dash, hyear, hn, hday, dateLength?, hg]

/-- How far a date goes is told by the first eleven characters, if the last of them is no digit. -/
theorem dateLength?_append_cons {cs : List Char} (hlength : 10 ≤ cs.length) {c : Char}
    (hc : c.isDigit = false) (rest : List Char) :
    dateLength? (cs ++ c :: rest) = dateLength? (cs ++ [c]) := by
  have hsplit : cs ++ c :: rest = (cs ++ [c]) ++ rest := by simp
  have hlong : 11 ≤ (cs ++ [c]).length := by
    rw [List.length_append, List.length_singleton]
    omega
  have hget : ∀ i < 11, (cs ++ c :: rest)[i]? = (cs ++ [c])[i]? := fun i hi => by
    rw [hsplit, List.getElem?_append_left (Nat.lt_of_lt_of_le hi hlong)]
  have hdigits : ∀ tail, ((cs ++ c :: tail).drop 7).takeWhile Char.isDigit
      = (cs.drop 7).takeWhile Char.isDigit := fun tail => by
    rw [List.drop_append_of_le_length (by omega), Text.takeWhile_append_cons hc]
  have hne : ∀ n < 11, ∀ tail, ¬(cs ++ c :: tail).length = n := fun n hn tail => by
    rw [List.length_append, List.length_cons]
    omega
  have hseven : ∀ tail, ¬(cs ++ c :: tail).length < 7 := fun tail => by
    rw [List.length_append, List.length_cons]
    omega
  simp only [dateLength?, hget 4 (by decide), hget 5 (by decide), hget 8 (by decide),
    hget 10 (by decide), hdigits, hne 7 (by decide), hne 9 (by decide), hseven]

theorem bind_dash {α : Type} (dashed : Bool) (rest : List Char) (k : List Char → Option α) :
    (if dashed then (expect? '-' (dash dashed ++ rest)).bind k
      else k (dash dashed ++ rest)) = k rest := by
  cases dashed <;> rfl

/-- The date is read off the front of a text. -/
theorem WrittenDate.date?_append (w : WrittenDate) (rest : List Char) :
    date? w.length (w.text ++ rest) = some w.date := by
  cases w with
  | calendar dashed d =>
    obtain ⟨e, f, hmonth, he, -⟩ := exists_padded_two d.month_lt
    have hhead : ∀ x, Text.isDecimalDigit x = false →
        (padded 2 d.month ++ (dash dashed ++ (padded 2 d.day ++ rest))).head? ≠ some x := by
      intro x hx heq
      rw [hmonth, List.cons_append, List.head?_cons, Option.some_inj] at heq
      rw [heq, hx] at he
      cases he
    simp only [text, List.append_assoc]
    rw [date?_fields d.year_lt _ (Or.inr (hhead '-' (by decide))) (hhead 'W' (by decide)),
      number?_padded (by decide) d.month_lt, Option.bind_some,
      bind_dash dashed _ fun rest => (number? 2 rest).bind fun day =>
        Date.of? d.year d.month day.1, number?_padded (by decide) d.day_lt]
    exact d.of?_self
  | week dashed year n weekday d h =>
    obtain ⟨hyear, hn, hday⟩ := Date.bounds_of_ofWeek? h
    have hlong : decide (7 + (dash dashed).length < (week dashed year n weekday d h).length)
        = weekday.isSome := by
      cases weekday with
      | none => exact decide_eq_false (Nat.lt_irrefl _)
      | some day => exact decide_eq_true (by rw [length, Option.elim_some]; omega)
    simp only [text, List.append_assoc, List.cons_append]
    rw [date?_week hyear, hlong, week?, number?_padded (by decide) hn]
    cases weekday with
    | none => exact h
    | some day =>
      simp only [Option.isSome_some, Option.elim_some, List.append_assoc, Option.bind_eq_bind,
        Option.bind_some, if_true]
      rw [bind_dash dashed _ fun rest => (number? 1 rest).bind fun day => Date.ofWeek? year n day.1,
        number?_padded (by decide) hday]
      exact h

end Time

end CloudEvents
