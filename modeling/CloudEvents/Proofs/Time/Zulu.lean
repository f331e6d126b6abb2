import CloudEvents.Proofs.Time.WrittenDate
/-!
# Timestamps with the letter of universal time

A letter at the end of a timestamp stands for universal time and is written as `+00:00` before the
text is read. The reader does not know that it was a letter, and so there are two ways in which
these six characters do not come to be read as the distance from universal time.

* If there is nothing but a date before the letter, the sign stands where the character between date
  and time is looked for, and the rest is the time: midnight, with no distance at all.
* If there is a distance already, with a fraction of at least six digits and U+0000 after it, the
  text is over there, and what comes after that is not read.

In every other text that is read as a timestamp they are the distance.

## Main statements

* `normalizeFraction_append_zero`: what the first rewriting makes of the text before `+00:00`;
* `fields?_upToZero`: fields end at U+0000;
* `offset_eq_utc_iff`: which timestamps with the letter are in universal time.
-/

namespace CloudEvents

namespace Time

open Text (padded natOfDigits)

/-! ## Before the letter -/

/-- Universal time, written as a distance. -/
abbrev zeroText : List Char := shiftText false 0 0

theorem zeroText_eq : zeroText = ['+', '0', '0', ':', '0', '0'] := rfl

theorem plus_not_mem_of_isEnd {cs : List Char} (h : isEnd cs = true) : '+' ∉ cs := by
  rw [isEnd, Bool.or_eq_true, beq_iff_eq, beq_iff_eq] at h
  rcases h with rfl | rfl <;> decide

theorem ne_plus_of_isDecimalDigit {c : Char} (h : Text.isDecimalDigit c = true) : '+' ≠ c := by
  rintro rfl
  exact absurd h (by decide)

/-- A sign can only be the first character of what ends a fraction. -/
theorem plus_not_mem_tail_of_endsFraction {cs : List Char} (h : endsFraction cs = true) :
    '+' ∉ cs.tail := by
  unfold endsFraction at h
  rw [Bool.or_eq_true] at h
  rcases h with h | h
  · exact fun hmem => plus_not_mem_of_isEnd h (List.mem_of_mem_tail hmem)
  · split at h
    · rename_i sign a b tail
      simp only [Bool.and_eq_true] at h
      obtain ⟨⟨⟨-, ha⟩, hb⟩, h⟩ := h
      -- a colon may be dropped, but no sign goes with it
      have hdrop : '+' ∈ tail → '+' ∈ if tail.head? == some ':' then tail.drop 1 else tail := by
        intro hmem
        split
        · rename_i hhead
          obtain ⟨rest, rfl⟩ := List.head?_eq_some_iff.1 (beq_iff_eq.1 hhead)
          exact (List.mem_cons.1 hmem).resolve_left (by decide)
        · exact hmem
      have htail : '+' ∉ tail := fun hmem => by
        have hrest := hdrop hmem
        split at h
        · rename_i c d rest hcd
          simp only [Bool.and_eq_true] at h
          rw [hcd, List.mem_cons, List.mem_cons] at hrest
          rcases hrest with hc | hd | hrest
          · exact ne_plus_of_isDecimalDigit h.1.1 hc
          · exact ne_plus_of_isDecimalDigit h.1.2 hd
          · exact plus_not_mem_of_isEnd h.2 hrest
        · cases h
      rw [List.tail_cons, List.mem_cons, List.mem_cons, not_or, not_or]
      exact ⟨ne_plus_of_isDecimalDigit ha, ne_plus_of_isDecimalDigit hb, htail⟩
    · cases h

/-- A fraction goes on to a distance only if the distance is all that is left. -/
theorem eq_nil_of_endsFraction {cs : List Char} (h : endsFraction (cs ++ zeroText) = true) :
    cs = [] := by
  cases cs with
  | nil => rfl
  | cons c rest =>
    refine absurd ?_ (plus_not_mem_tail_of_endsFraction h)
    exact List.mem_append_right rest List.mem_cons_self

/-- The fraction before the distance may be rewritten. What comes before U+0000 stays. -/
theorem normalizeFraction_append_zero (cs : List Char) :
    ∃ cs', normalizeFraction (cs ++ zeroText) = cs' ++ zeroText ∧
      ('.' ∉ cs ∨ '.' ∉ cs' → cs' = cs) ∧
      ∀ before, (∃ after, cs = before ++ '\x00' :: after) ↔
        ∃ after, cs' = before ++ '\x00' :: after := by
  induction cs with
  | nil => exact ⟨[], rfl, fun _ => rfl, fun _ => Iff.rfl⟩
  | cons c rest ih =>
    have htake : (rest ++ zeroText).takeWhile Text.isDecimalDigit
        = rest.takeWhile Text.isDecimalDigit :=
      Text.takeWhile_append_cons (by decide) rest _
    have hdrop : (rest ++ zeroText).dropWhile Text.isDecimalDigit
        = rest.dropWhile Text.isDecimalDigit ++ zeroText :=
      Text.dropWhile_append_cons (by decide) rest _
    rw [List.cons_append, normalizeFraction, htake, hdrop]
    split
    · rename_i hfraction
      simp only [Bool.and_eq_true, beq_iff_eq] at hfraction
      obtain ⟨⟨rfl, -⟩, hends⟩ := hfraction
      have hall := eq_nil_of_endsFraction hends
      have hdigits : rest.takeWhile Text.isDecimalDigit = rest := by
        have hsplit := List.takeWhile_append_dropWhile (p := Text.isDecimalDigit) (l := rest)
        rwa [hall, List.append_nil] at hsplit
      rw [hall, hdigits, List.nil_append]
      refine ⟨'.' :: sixDigits rest, rfl, fun hdot => ?_, fun before => ?_⟩
      · rcases hdot with hdot | hdot <;> exact absurd List.mem_cons_self hdot
      · -- neither the digits nor the six that they become hold U+0000
        have hnone : '\x00' ∉ rest := fun hmem => by
          rw [← hdigits] at hmem
          exact absurd (List.mem_takeWhile_imp hmem) (by decide)
        have hsix : '\x00' ∉ sixDigits rest := fun hmem => by
          rcases List.mem_append.1 hmem with hmem | hmem
          · exact hnone (List.mem_of_mem_take hmem)
          · exact absurd (List.eq_of_mem_replicate hmem) (by decide)
        refine iff_of_false ?_ ?_
        · rintro ⟨after, hafter⟩
          exact absurd (hafter ▸ by simp : '\x00' ∈ '.' :: rest) (by simp [hnone])
        · rintro ⟨after, hafter⟩
          exact absurd (hafter ▸ by simp : '\x00' ∈ '.' :: sixDigits rest) (by simp [hsix])
    · obtain ⟨rest', hrest', hself, hzero⟩ := ih
      rw [hrest']
      refine ⟨c :: rest', rfl, fun hdot => ?_, fun before => ?_⟩
      · rw [hself (hdot.imp (mt (List.mem_cons_of_mem c)) (mt (List.mem_cons_of_mem c)))]
      · cases before with
        | nil => simp
        | cons b before => simp [hzero before]

/-! ## Fields up to the end -/

theorem not_left_iff {cs : List Char} :
    isLeft cs = false ↔ cs = [] ∨ ∃ rest, cs = '\x00' :: rest := by
  cases cs with
  | nil => simp [isLeft]
  | cons c rest => simp [isLeft]

/-- The text up to U+0000. -/
def upToZero (cs : List Char) : List Char := cs.takeWhile (· != '\x00')

theorem upToZero_append {ds : List Char} (hdigits : ∀ c ∈ ds, c.isDigit = true) (rest : List Char) :
    upToZero (ds ++ rest) = ds ++ upToZero rest := by
  refine List.takeWhile_append_of_pos fun c hc => bne_iff_ne.2 ?_
  rintro rfl
  cases hdigits _ hc

theorem upToZero_cons {c : Char} (hc : c ≠ '\x00') (rest : List Char) :
    upToZero (c :: rest) = c :: upToZero rest :=
  List.takeWhile_cons_of_pos (bne_iff_ne.2 hc)

theorem ne_zero_of_isDigit {c : Char} (h : c.isDigit = true) : c ≠ '\x00' := by
  rintro rfl
  cases h

theorem plus_not_mem_digits {ds : List Char} (hdigits : ∀ c ∈ ds, c.isDigit = true) : '+' ∉ ds :=
  fun h => by cases hdigits _ h

/-- What is read as a fraction, to the end of the text, are digits. -/
theorem exists_of_fraction? {f g : ClockFields} {cs : List Char} (h : fraction? f cs = some g)
    (hg : g.trailing = false) : ∃ ds es left : List Char, cs = ds ++ (es ++ left) ∧
      (∀ c ∈ ds, c.isDigit = true) ∧ (∀ c ∈ es, c.isDigit = true) ∧
      (ds.length = 6 ∨ ds.length < 6 ∧ es = [] ∧ left = []) ∧
      (left = [] ∨ ∃ rest, left = '\x00' :: rest) := by
  rw [fraction?] at h
  simp only [Option.bind_eq_bind, Option.bind_eq_some_iff] at h
  obtain ⟨⟨v, rest⟩, hnumber, h⟩ := h
  obtain ⟨hlength, hdigits, -, rfl⟩ := of_number? hnumber
  obtain rfl := Option.some.inj h
  refine ⟨cs.take (min 6 cs.length), (cs.drop (min 6 cs.length)).takeWhile Char.isDigit,
    (cs.drop (min 6 cs.length)).dropWhile Char.isDigit, ?_, hdigits,
    fun c hc => List.mem_takeWhile_imp hc, ?_, not_left_iff.1 hg⟩
  · rw [List.takeWhile_append_dropWhile, List.take_append_drop]
  · rcases Nat.lt_or_ge cs.length 6 with hshort | hlong
    · have hall : cs.drop (min 6 cs.length) = [] := List.drop_of_length_le (by omega)
      rw [hall, hlength]
      exact Or.inr ⟨by omega, rfl, rfl⟩
    · exact Or.inl (by omega)

/-- A fraction takes up to six digits, and further ones are skipped. -/
theorem fraction?_digits (f : ClockFields) {ds es left : List Char}
    (hds : ∀ c ∈ ds, c.isDigit = true) (hes : ∀ c ∈ es, c.isDigit = true)
    (hlength : ds.length = 6 ∨ ds.length < 6 ∧ es = [] ∧ left = [])
    (hleft : left = [] ∨ ∃ rest, left = '\x00' :: rest) :
    fraction? f (ds ++ (es ++ left)) = some
      { f with micro := natOfDigits ds * Nat.pow 10 (6 - ds.length), trailing := false } := by
  have hn : min 6 (ds ++ (es ++ left)).length = ds.length := by
    rw [List.length_append]
    rcases hlength with h | ⟨h, rfl, rfl⟩
    · omega
    · rw [List.append_nil, List.length_nil]
      omega
  have hskip : (es ++ left).dropWhile Char.isDigit = left := by
    rw [List.dropWhile_append_of_pos hes]
    rcases hleft with rfl | ⟨rest, rfl⟩ <;> rfl
  rw [fraction?, hn]
  simp only [number?_digits rfl hds, Option.bind_eq_bind, Option.bind_some, hskip,
    not_left_iff.2 hleft]
  rfl

theorem fraction?_upToZero {f g : ClockFields} {cs : List Char} (h : fraction? f cs = some g)
    (hg : g.trailing = false) :
    fraction? f (upToZero cs) = some g ∧ '+' ∉ upToZero cs := by
  obtain ⟨ds, es, left, rfl, hds, hes, hlength, hleft⟩ := exists_of_fraction? h hg
  have hdigits : ∀ c ∈ ds ++ es, c.isDigit = true := List.forall_mem_append.2 ⟨hds, hes⟩
  have hzero : upToZero left = [] := by
    rcases hleft with rfl | ⟨rest, rfl⟩ <;> rfl
  have hself : upToZero (ds ++ (es ++ left)) = ds ++ (es ++ []) := by
    rw [← List.append_assoc, upToZero_append hdigits, hzero, List.append_assoc]
  rw [hself, ← h, fraction?_digits f hds hes hlength hleft,
    fraction?_digits f hds hes (hlength.imp_right fun hall => ⟨hall.1, hall.2.1, rfl⟩) (Or.inl rfl)]
  exact ⟨rfl, by simpa using plus_not_mem_digits hdigits⟩

/-- What is read after a field, with the number of fields that may come. -/
def afterField (f : ClockFields) (colons : Bool) (left : Nat) : List Char → Option ClockFields
  | [] => some f
  | [c] => if c.toNat < 0x80 then some { f with trailing := isLeft [c] } else none
  | c :: d :: tail =>
    if colons && c == ':' then fields? f colons left (d :: tail)
    else if c == '.' || c == ',' then fraction? f (d :: tail)
    else if !colons then fields? f colons left (c :: d :: tail)
    else none

/-- One field, and what comes after it. -/
theorem fields?_padded {f : ClockFields} {colons : Bool} {left v : Nat} (hv : v < 100)
    (rest : List Char) : fields? f colons (left + 1) (padded 2 v ++ rest) =
      afterField (f.set (2 - left) v) (if left = 2 then rest.head? == some ':' else colons) left
        rest := by
  rw [fields?, number?_padded (by decide) hv]
  rcases rest with _ | ⟨c, _ | ⟨d, tail⟩⟩
  · rfl
  · rfl
  · rfl

/-- Fields begin with two digits, or with all that is left. -/
theorem isDigit_of_mem_take_two {f g : ClockFields} {colons : Bool} {left : Nat} {cs : List Char}
    (h : fields? f colons left cs = some g) : ∀ c ∈ cs.take 2, c.isDigit = true := by
  cases left with
  | zero =>
    obtain ⟨⟨v, rest⟩, hnumber, -⟩ :=
      Option.bind_eq_some_iff.1 (h : (number? (min 6 cs.length) cs).bind _ = some g)
    intro c hc
    refine (of_number? hnumber).2.1 c ?_
    rw [List.take_eq_take_min] at hc
    exact (List.take_prefix_take_left (by omega)).subset hc
  | succ left =>
    obtain ⟨⟨v, rest⟩, hnumber, -⟩ :=
      Option.bind_eq_some_iff.1 (h : (number? 2 cs).bind _ = some g)
    exact (of_number? hnumber).2.1

theorem ClockFields.trailing_set (f : ClockFields) (field value : Nat) :
    (f.set field value).trailing = f.trailing := by
  match field with
  | 0 => rfl
  | 1 => rfl
  | _ + 2 => rfl

theorem head?_upToZero_eq_colon (cs : List Char) :
    ((upToZero cs).head? == some ':') = (cs.head? == some ':') := by
  cases cs with
  | nil => rfl
  | cons c rest =>
    by_cases hc : c = '\x00'
    · rw [hc]
      rfl
    · rw [upToZero_cons hc]
      rfl

/-- What comes after a field ends at U+0000, and there is no sign in it, if it is so for the fields
to come. -/
theorem afterField_upToZero {f g : ClockFields} {colons : Bool} {left : Nat}
    (hnext : ∀ {colons cs}, fields? f colons left cs = some g →
      fields? f colons left (upToZero cs) = some g ∧ '+' ∉ upToZero cs)
    {rest : List Char} (h : afterField f colons left rest = some g) (hf : f.trailing = false)
    (hg : g.trailing = false) :
    afterField f colons left (upToZero rest) = some g ∧ '+' ∉ upToZero rest := by
  rcases rest with _ | ⟨c, _ | ⟨d, tail⟩⟩
  · exact ⟨h, List.not_mem_nil⟩
  · -- a single character is left over unless it is U+0000
    rw [afterField] at h
    split at h
    · have hself := Option.some.inj h
      have hc : c = '\x00' := by
        rw [← hself] at hg
        simpa [isLeft] using hg
      have hend : f = { f with trailing := isLeft ['\x00'] } :=
        congrArg (fun b => { f with trailing := b }) hf
      rw [hc] at hself ⊢
      rw [← hself]
      exact ⟨congrArg some hend, List.not_mem_nil⟩
    · cases h
  · rw [afterField] at h
    split at h
    · rename_i hcolon
      obtain ⟨hfields, hplus⟩ := hnext h
      have hd := ne_zero_of_isDigit (isDigit_of_mem_take_two h d (by simp))
      obtain ⟨-, rfl⟩ : colons = true ∧ c = ':' := by simpa using hcolon
      rw [upToZero_cons hd] at hfields hplus
      rw [upToZero_cons (by decide), upToZero_cons hd, afterField, if_pos hcolon]
      exact ⟨hfields, by simpa using hplus⟩
    · rename_i hcolon
      split at h
      · rename_i hdot
        obtain ⟨hfields, hplus⟩ := fraction?_upToZero h hg
        have hfirst : fields? f false 0 (d :: tail) = some g := h
        have hd := ne_zero_of_isDigit (isDigit_of_mem_take_two hfirst d (by simp))
        have hc : c ≠ '\x00' ∧ '+' ≠ c := by
          constructor <;> rintro rfl <;> cases hdot
        rw [upToZero_cons hd] at hfields hplus
        rw [upToZero_cons hc.1, upToZero_cons hd, afterField, if_neg hcolon, if_pos hdot]
        exact ⟨hfields, List.not_mem_cons_of_ne_of_not_mem hc.2 hplus⟩
      · rename_i hdot
        split at h
        · rename_i hnone
          obtain ⟨hfields, hplus⟩ := hnext h
          have htwo := isDigit_of_mem_take_two h
          have hc := ne_zero_of_isDigit (htwo c (by simp))
          have hd := ne_zero_of_isDigit (htwo d (by simp))
          rw [upToZero_cons hc, upToZero_cons hd] at hfields hplus ⊢
          rw [afterField, if_neg hcolon, if_neg hdot, if_pos hnone]
          exact ⟨hfields, hplus⟩
        · cases h

/-- Fields end at U+0000, and there is no sign in them. The induction is on the number of fields
that may still come. -/
theorem fields?_upToZero {f g : ClockFields} {colons : Bool} {left : Nat} {cs : List Char}
    (h : fields? f colons left cs = some g) (hf : f.trailing = false) (hg : g.trailing = false) :
    fields? f colons left (upToZero cs) = some g ∧ '+' ∉ upToZero cs := by
  induction left generalizing f colons cs with
  | zero => exact fraction?_upToZero h hg
  | succ left ih =>
    obtain ⟨⟨v, rest⟩, hnumber, -⟩ :=
      Option.bind_eq_some_iff.1 (h : (number? 2 cs).bind _ = some g)
    obtain ⟨hv, rfl⟩ := eq_padded_append_of_number? (by decide) hnumber
    have hdigits : ∀ c ∈ padded 2 v, c.isDigit = true := fun c hc => Text.isDigit_of_mem_padded hc
    have hset := (f.trailing_set (2 - left) v).trans hf
    rw [fields?_padded hv] at h
    obtain ⟨hafter, hplus⟩ := afterField_upToZero (fun h => ih h hset) h hset hg
    rw [upToZero_append hdigits, fields?_padded hv, head?_upToZero_eq_colon, List.mem_append,
      not_or]
    exact ⟨hafter, plus_not_mem_digits hdigits, hplus⟩

/-! ## Times with a distance -/

theorem clockFields?_upToZero {f : ClockFields} {cs : List Char} (h : clockFields? cs = some f)
    (hf : f.trailing = false) :
    clockFields? (upToZero cs) = some f ∧ '+' ∉ upToZero cs :=
  fields?_upToZero h rfl hf

/-- A time with a distance is a time of day, a sign and what is read after that. -/
theorem exists_of_clock? {cs : List Char} {c : Clock} {o : Option Offset}
    (h : clock? cs = some (c, o)) : ∃ f, clockFields? (cs.takeWhile isTimeChar) = some f ∧
      Clock.of? f.hour f.minute f.second f.micro = some c ∧
      (cs.dropWhile isTimeChar = [] ∧ o = none ∨
        ∃ sign rest o', cs.dropWhile isTimeChar = sign :: rest ∧ offset? sign rest = some o' ∧
          o = some o') := by
  rw [clock?] at h
  simp only [Option.bind_eq_bind, Option.bind_eq_some_iff] at h
  obtain ⟨f, hf, clock, hclock, h⟩ := h
  refine ⟨f, hf, ?_⟩
  split at h
  · rename_i hnil
    split at h
    · cases h
    · obtain ⟨rfl, rfl⟩ := Prod.mk.inj (Option.some.inj h)
      exact ⟨hclock, Or.inl ⟨hnil, rfl⟩⟩
  · rename_i sign rest hsign
    simp only [Option.bind_eq_some_iff] at h
    obtain ⟨o', ho', h⟩ := h
    obtain ⟨rfl, rfl⟩ := Prod.mk.inj (Option.some.inj h)
    exact ⟨hclock, Or.inr ⟨sign, rest, o', hsign, ho', rfl⟩⟩

/-- What is read after a sign is the distance before U+0000. -/
theorem offset?_upToZero {sign : Char} (hsign : sign ≠ 'Z') {cs : List Char} {o : Offset}
    (h : offset? sign cs = some o) : offset? sign (upToZero cs) = some o ∧ '+' ∉ upToZero cs := by
  rw [offset?, if_neg hsign] at h
  simp only [Option.bind_eq_bind, Option.bind_eq_some_iff] at h
  obtain ⟨f, hf, h⟩ := h
  by_cases htrailing : f.trailing = true
  · rw [if_pos htrailing] at h
    cases h
  · obtain ⟨hcut, hplus⟩ := clockFields?_upToZero hf (Bool.not_eq_true _ ▸ htrailing)
    refine ⟨?_, hplus⟩
    rw [offset?, if_neg hsign, hcut]
    exact h

/-- What stands before the sign of a distance: a date, a character and a time of day. -/
def Leads (front : List Char) (sign : Char) (d : Date) (c : Clock) : Prop :=
  ∃ (w : WrittenDate) (separator : Char) (time : List Char) (f : ClockFields),
    front = w.text ++ separator :: time ∧ w.date = d ∧ (∀ x ∈ time, isTimeChar x = true) ∧
      clockFields? time = some f ∧ Clock.of? f.hour f.minute f.second f.micro = some c ∧
      dateLength? (front ++ [sign]) = some w.length

/-- A timestamp is a date, or a date, a character and a time. -/
theorem exists_of_readIso? {cs : List Char} {t : Timestamp} (h : readIso? cs = some t) :
    ∃ w : WrittenDate, w.date = t.date ∧ dateLength? cs = some w.length ∧
      (cs = w.text ∧ t.offset = none ∨
        ∃ separator time, cs = w.text ++ separator :: time ∧
          clock? time = some (t.clock, t.offset)) := by
  rw [readIso?] at h
  simp only [Option.bind_eq_bind, Option.bind_eq_some_iff] at h
  obtain ⟨n, hn, d, hd, h⟩ := h
  obtain ⟨w, rest, rfl, hlength, rfl⟩ := exists_writtenDate hn hd
  rw [w.length_text] at hlength
  subst hlength
  refine ⟨w, ?_⟩
  cases rest with
  | nil =>
    rw [List.append_nil] at h hn ⊢
    rw [if_pos (Nat.le_of_eq w.length_text)] at h
    rw [← Option.some.inj h]
    exact ⟨rfl, hn, Or.inl ⟨rfl, rfl⟩⟩
  | cons separator time =>
    have hlong : ¬(w.text ++ separator :: time).length ≤ w.length := by
      rw [List.length_append, w.length_text, List.length_cons]
      omega
    have hdrop : (w.text ++ separator :: time).drop (w.length + 1) = time := by
      rw [← w.length_text]
      simp
    rw [if_neg hlong, hdrop, Option.bind_eq_some_iff] at h
    obtain ⟨⟨c, o⟩, hclock, h⟩ := h
    rw [← Option.some.inj h]
    exact ⟨rfl, hn, Or.inr ⟨separator, time, rfl, hclock⟩⟩

theorem two_le_length_of_clockFields? {f : ClockFields} {cs : List Char}
    (h : clockFields? cs = some f) : 2 ≤ cs.length := by
  obtain ⟨⟨v, rest⟩, hnumber, -⟩ := Option.bind_eq_some_iff.1 (h : (number? 2 cs).bind _ = some f)
  have htake := (of_number? hnumber).1
  rw [List.length_take] at htake
  omega

/-- What leads to a sign is long enough for the date not to depend on what comes after the sign. -/
theorem ten_le_length (w : WrittenDate) (separator : Char) {time : List Char} {f : ClockFields}
    (h : clockFields? time = some f) : 10 ≤ (w.text ++ separator :: time).length := by
  have htwo := two_le_length_of_clockFields? h
  have hseven : 7 ≤ w.length := by
    cases w <;> rw [WrittenDate.length] <;> omega
  rw [List.length_append, w.length_text, List.length_cons]
  omega

theorem isDigit_eq_false_of_not_isTimeChar {sign : Char} (h : isTimeChar sign = false) :
    sign.isDigit = false := by
  rw [← Bool.not_eq_true]
  intro hdigit
  rw [isTimeChar_of_field (Or.inl hdigit)] at h
  cases h

/-- The distance is read after the sign, whatever it is. -/
theorem Leads.readIso? {front : List Char} {sign : Char} {d : Date} {c : Clock}
    (h : Leads front sign d c) (hsign : isTimeChar sign = false) (rest : List Char) :
    readIso? (front ++ sign :: rest) = (offset? sign rest).map fun o => ⟨d, c, some o⟩ := by
  obtain ⟨w, separator, time, f, rfl, rfl, htime, hf, hc, hdate⟩ := h
  have hlength := dateLength?_append_cons (ten_le_length w separator hf)
    (isDigit_eq_false_of_not_isTimeChar hsign) rest
  rw [hdate, List.append_assoc, List.cons_append] at hlength
  have hlong : ¬(w.text ++ separator :: (time ++ sign :: rest)).length ≤ w.length := by
    rw [List.length_append, w.length_text, List.length_cons]
    omega
  have hdrop : (w.text ++ separator :: (time ++ sign :: rest)).drop (w.length + 1)
      = time ++ sign :: rest := by
    rw [← w.length_text]
    simp
  rw [List.append_assoc, List.cons_append, Time.readIso?, hlength]
  simp only [Option.bind_eq_bind, Option.bind_some, w.date?_append, if_neg hlong, hdrop,
    clock?_append htime hsign hf hc]
  cases offset? sign rest <;> rfl

/-- A timestamp with a distance is read from what leads to the sign and what comes after it. -/
theorem exists_leads {cs : List Char} {t : Timestamp} {o : Offset} (h : readIso? cs = some t)
    (ho : t.offset = some o) : ∃ front sign rest, cs = front ++ sign :: rest ∧
      isTimeChar sign = false ∧ Leads front sign t.date t.clock ∧ offset? sign rest = some o := by
  obtain ⟨w, hdate, hlength, ⟨-, hnone⟩ | ⟨separator, time, rfl, hclock⟩⟩ := exists_of_readIso? h
  · rw [hnone] at ho
    cases ho
  · obtain ⟨f, hf, hc, ⟨-, hnone⟩ | ⟨sign, rest, o', hdrop, hoffset, ho'⟩⟩ :=
      exists_of_clock? hclock
    · rw [hnone] at ho
      cases ho
    · obtain rfl : o = o' := Option.some.inj (ho.symm.trans ho')
      have hsign : isTimeChar sign = false := by
        have hfirst := List.head?_dropWhile_not isTimeChar time
        rw [hdrop] at hfirst
        exact hfirst
      have hsplit : w.text ++ separator :: time
          = (w.text ++ separator :: time.takeWhile isTimeChar) ++ sign :: rest := by
        rw [List.append_assoc, List.cons_append, ← hdrop, List.takeWhile_append_dropWhile]
      rw [hsplit, dateLength?_append_cons (ten_le_length w separator hf)
        (isDigit_eq_false_of_not_isTimeChar hsign)] at hlength
      exact ⟨_, sign, rest, hsplit, hsign, ⟨w, separator, _, f, rfl, hdate,
        fun x hx => List.mem_takeWhile_imp hx, hf, hc, hlength⟩, hoffset⟩

/-! ## The letter at the end -/

/-- The text goes on with U+0000 after a timestamp with another distance from universal time. -/
def BreaksOff (cs : List Char) : Prop :=
  ∃ (before after : List Char) (t : Timestamp) (o : Offset), cs = before ++ '\x00' :: after ∧
    readIso? before = some t ∧ t.offset = some o ∧ o ≠ Offset.utc

/-- Only what comes before U+0000 counts for that. -/
theorem BreaksOff.imp {cs cs' : List Char}
    (h : ∀ before, (∃ after, cs = before ++ '\x00' :: after) →
      ∃ after, cs' = before ++ '\x00' :: after)
    (hbreak : BreaksOff cs) : BreaksOff cs' := by
  obtain ⟨before, after, t, o, hcs, hread, ho, hne⟩ := hbreak
  obtain ⟨after', hcs'⟩ := h before ⟨after, hcs⟩
  exact ⟨before, after', t, o, hcs', hread, ho, hne⟩

theorem plus_not_mem_date (w : WrittenDate) : '+' ∉ w.text := fun h => by
  rcases WrittenDate.of_mem_text h with h | h | h <;> cases h

theorem dot_not_mem_date (w : WrittenDate) : '.' ∉ w.text := fun h => by
  rcases WrittenDate.of_mem_text h with h | h | h <;> cases h

/-- A date before `+00:00` leaves nothing for the distance. -/
theorem offset_eq_none_of_date (w : WrittenDate) {t : Timestamp}
    (h : readIso? (w.text ++ zeroText) = some t) : t.offset = none := by
  obtain ⟨w', -, hlength, hrest⟩ := exists_of_readIso? h
  have hself : w.length = w'.length :=
    Option.some.inj ((w.dateLength?_append ['0', '0', ':', '0', '0']).symm.trans hlength)
  rcases hrest with ⟨hall, -⟩ | ⟨separator, time, hsplit, hclock⟩
  · have hlong := congrArg List.length hall
    rw [List.length_append, w.length_text, w'.length_text, hself] at hlong
    have hzero : zeroText.length = 6 := rfl
    omega
  · obtain ⟨-, htime⟩ := List.append_inj hsplit (by rw [w.length_text, w'.length_text, hself])
    obtain rfl : ['0', '0', ':', '0', '0'] = time := (List.cons.inj htime).2
    have hmidnight : clock? ['0', '0', ':', '0', '0'] = some (Clock.midnight, none) := rfl
    rw [hmidnight] at hclock
    exact (Prod.mk.inj (Option.some.inj hclock)).2.symm

/-- Without a distance there is nothing but a date before `+00:00`. -/
theorem exists_date_of_offset_eq_none {cs : List Char} {t : Timestamp}
    (h : readIso? (cs ++ zeroText) = some t) (ho : t.offset = none) :
    ∃ w : WrittenDate, cs = w.text := by
  obtain ⟨w, -, -, ⟨hall, -⟩ | ⟨separator, time, hsplit, hclock⟩⟩ := exists_of_readIso? h
  · exact absurd (hall ▸ List.mem_append_right cs List.mem_cons_self) (plus_not_mem_date w)
  · have htime : '+' ∉ time := by
      obtain ⟨f, -, -, ⟨hnil, -⟩ | ⟨sign, rest, o, -, -, hsome⟩⟩ := exists_of_clock? hclock
      · exact fun hmem => absurd (List.dropWhile_eq_nil_iff.1 hnil '+' hmem) (by decide)
      · rw [ho] at hsome
        cases hsome
    -- the sign is not in the date and not in the time, so it stands between them
    refine ⟨w, ?_⟩
    obtain ⟨rest, hdate, hzero⟩ | ⟨rest, hcs, hrest⟩ := List.append_eq_append_iff.1 hsplit
    · cases rest with
      | nil => rw [hdate, List.append_nil]
      | cons c rest =>
        obtain rfl : '+' = c := (List.cons.inj hzero).1
        exact absurd (hdate ▸ by simp) (plus_not_mem_date w)
    · cases rest with
      | nil => rw [hcs, List.append_nil]
      | cons c rest =>
        rw [(List.cons.inj hrest).2] at htime
        exact absurd (List.mem_append_right rest List.mem_cons_self) htime

/-- The letter of universal time is read as no other distance. -/
theorem ne_letter_of_offset? {sign : Char} {rest : List Char} {o : Offset}
    (h : offset? sign rest = some o) (hne : o ≠ Offset.utc) : sign ≠ 'Z' := by
  rintro rfl
  rw [offset?, if_pos rfl] at h
  split at h
  · cases h
  · exact hne (Option.some.inj h).symm

/-- A text that breaks off has the distance before U+0000. -/
theorem BreaksOff.offset_ne_utc {cs : List Char} {t : Timestamp} (h : BreaksOff cs)
    (ht : readIso? (cs ++ zeroText) = some t) : t.offset ≠ some Offset.utc := by
  obtain ⟨before, after, t', o, rfl, hbefore, ho, hne⟩ := h
  obtain ⟨front, sign, rest, rfl, hsign, hleads, hoffset⟩ := exists_leads hbefore ho
  have hletter := ne_letter_of_offset? hoffset hne
  have hsplit : (front ++ sign :: rest) ++ '\x00' :: after ++ zeroText
      = front ++ sign :: (rest ++ '\x00' :: (after ++ zeroText)) := by
    simp
  rw [hsplit, hleads.readIso? hsign, Option.map_eq_some_iff] at ht
  obtain ⟨o', ho', rfl⟩ := ht
  have hcut : upToZero (rest ++ '\x00' :: (after ++ zeroText)) = upToZero rest :=
    Text.takeWhile_append_cons rfl rest _
  have hsame := (offset?_upToZero hletter ho').1
  rw [hcut, (offset?_upToZero hletter hoffset).1] at hsame
  rw [← Option.some.inj hsame]
  exact fun heq => hne (Option.some.inj heq)

/-- Another distance than `+00:00` is that of a text that breaks off. -/
theorem breaksOff_of_offset {cs : List Char} {t : Timestamp} {o : Offset}
    (h : readIso? (cs ++ zeroText) = some t) (ho : t.offset = some o) (hne : o ≠ Offset.utc) :
    BreaksOff cs := by
  obtain ⟨front, sign, rest, hsplit, hsign, hleads, hoffset⟩ := exists_leads h ho
  have hletter := ne_letter_of_offset? hoffset hne
  have hown : sign :: rest ≠ zeroText := fun heq => by
    obtain ⟨rfl, rfl⟩ := List.cons.inj heq
    have hutc := offset?_shiftText false (by decide : 0 < 24) (by decide : 0 < 60)
    exact hne (Option.some.inj (hoffset.symm.trans hutc))
  obtain ⟨tail, rfl, hzero⟩ | ⟨tail, rfl, htail⟩ := List.append_eq_append_iff.1 hsplit
  · cases tail with
    | nil => exact absurd hzero.symm hown
    | cons c tail =>
      have hmem : sign ∈ ['0', '0', ':', '0', '0'] := by
        rw [zeroText_eq] at hzero
        rw [(List.cons.inj hzero).2]
        simp
      have hchars : ∀ x ∈ ['0', '0', ':', '0', '0'], isTimeChar x = true :=
        List.all_eq_true.1 rfl
      rw [hchars sign hmem] at hsign
      cases hsign
  · cases tail with
    | nil => exact absurd htail hown
    | cons c tail =>
      obtain rfl : rest = tail ++ zeroText := (List.cons.inj htail).2
      obtain rfl : sign = c := (List.cons.inj htail).1
      obtain ⟨hcut, hplus⟩ := offset?_upToZero hletter hoffset
      have hzero : '\x00' ∈ tail := by
        by_contra hnone
        have hall : upToZero (tail ++ zeroText) = tail ++ upToZero zeroText :=
          List.takeWhile_append_of_pos fun x hx => bne_iff_ne.2 fun heq => hnone (heq ▸ hx)
        rw [hall] at hplus
        exact hplus (List.mem_append_right tail List.mem_cons_self)
      obtain ⟨before, after, rfl, hbefore⟩ := List.eq_append_cons_of_mem hzero
      have hfirst : upToZero ((before ++ '\x00' :: after) ++ zeroText) = before := by
        rw [List.append_assoc, List.cons_append, upToZero, Text.takeWhile_append_cons rfl,
          List.takeWhile_eq_self_iff]
        exact fun x hx => bne_iff_ne.2 fun heq => hbefore (heq ▸ hx)
      rw [hfirst] at hcut
      refine ⟨front ++ sign :: before, after, ⟨t.date, t.clock, some o⟩, o, by simp, ?_, rfl, hne⟩
      rw [hleads.readIso? hsign, hcut]
      rfl

/-- The letter of universal time, in either case, is written as `+00:00`. -/
theorem normalize_append_letter {letter : Char} (h : letter = 'Z' ∨ letter = 'z')
    (pre : List Char) : normalize (pre ++ [letter]) = normalizeFraction (pre ++ zeroText) := by
  rcases h with rfl | rfl
  · exact congrArg normalizeFraction (expandZulu_zone pre (.zulu false))
  · exact congrArg normalizeFraction (expandZulu_zone pre (.zulu true))

/-- **The letter of universal time.**  A timestamp that ends in the letter of universal time, in
either case, is in universal time, unless there is nothing but a date before the letter or the text
breaks off. -/
theorem offset_eq_utc_iff {headers : Fields Value} {pre : List Char} {letter : Char}
    (hletter : letter = 'Z' ∨ letter = 'z')
    (hv : (headers.attributeValue .time).text? = some (String.ofList (pre ++ [letter])))
    {t : Timestamp} (h : Accessor.time.get headers = .ok (.time t)) :
    t.offset = some Offset.utc ↔ (¬∃ w : WrittenDate, pre = w.text) ∧ ¬BreaksOff pre := by
  obtain ⟨cs, hcs, hdot, hzero⟩ := normalizeFraction_append_zero pre
  have hread : readIso? (cs ++ zeroText) = some t := by
    have hself := (timestamp_eq_ok_iff hv).1 h
    rwa [Timestamp.read?, String.toList_ofList, normalize_append_letter hletter, hcs] at hself
  have hdate : (∃ w : WrittenDate, pre = w.text) ↔ ∃ w : WrittenDate, cs = w.text := by
    constructor
    · rintro ⟨w, hw⟩
      exact ⟨w, (hdot (Or.inl (hw ▸ dot_not_mem_date w))).trans hw⟩
    · rintro ⟨w, hw⟩
      exact ⟨w, (hdot (Or.inr (hw ▸ dot_not_mem_date w))).symm.trans hw⟩
  have hbreaks : BreaksOff pre ↔ BreaksOff cs :=
    ⟨.imp fun before => (hzero before).1, .imp fun before => (hzero before).2⟩
  rw [hdate, hbreaks]
  constructor
  · intro hutc
    refine ⟨?_, fun hbreak => hbreak.offset_ne_utc hread hutc⟩
    rintro ⟨w, rfl⟩
    rw [offset_eq_none_of_date w hread] at hutc
    cases hutc
  · rintro ⟨hno, hwhole⟩
    cases ho : t.offset with
    | none => exact absurd (exists_date_of_offset_eq_none hread ho) hno
    | some o =>
      by_contra hne
      exact hwhole (breaksOff_of_offset hread ho fun heq => hne (by rw [heq]))

example : (Timestamp.read? "2018-04-05T10:00:00+05:00:00.000000\x00Z").bind Timestamp.offset
    = some ⟨18000000000, by decide⟩ := by decide +kernel

/-- Headers of an event at half past twelve on the Monday of a week. -/
def weekHeaders : Fields Value := Fields.ofList [("ce-time", .text "2018-W14-12:30Z")]

theorem offset_eq_utc_iff_weekHeaders : ∃ t, Accessor.time.get weekHeaders = .ok (.time t) ∧
    t.clock.minute = 30 ∧ t.offset = some Offset.utc := by
  have hread : Timestamp.read? "2018-W14-12:30Z" = some ⟨⟨2018, 4, 2, by decide, by decide,
      by decide⟩, ⟨12, 30, 0, 0, by decide, by decide, by decide, by decide⟩, some Offset.utc⟩ := by
    decide +kernel
  have hv : (weekHeaders.attributeValue .time).text?
      = some (String.ofList ("2018-W14-12:30".toList ++ ['Z'])) := rfl
  have hget := (timestamp_eq_ok_iff hv).2 hread
  refine ⟨_, hget, rfl, (offset_eq_utc_iff (Or.inl rfl) hv hget).2 ⟨?_, ?_⟩⟩
  · rintro ⟨w, hw⟩
    have hcolon : ':' ∈ w.text := hw ▸ by decide
    rcases WrittenDate.of_mem_text hcolon with h | h | h <;> cases h
  · rintro ⟨before, after, -, -, hsplit, -⟩
    exact absurd (hsplit ▸ by simp : '\x00' ∈ "2018-W14-12:30".toList) (by decide)

/-- The letter after a date alone is lost. -/
theorem not_forall_offset_eq_utc : ¬∀ (headers : Fields Value) (pre : List Char) (letter : Char)
    (t : Timestamp), letter = 'Z' ∨ letter = 'z' →
      (headers.attributeValue .time).text? = some (String.ofList (pre ++ [letter])) →
      Accessor.time.get headers = .ok (.time t) → t.offset = some Offset.utc := by
  intro h
  have hread : Timestamp.read? "2018-04-05Z"
      = some ⟨⟨2018, 4, 5, by decide, by decide, by decide⟩, Clock.midnight, none⟩ := by
    decide +kernel
  have hv : ((Fields.ofList [("ce-time", Value.text "2018-04-05Z")]).attributeValue .time).text?
      = some (String.ofList ("2018-04-05".toList ++ ['Z'])) := rfl
  cases h _ _ _ _ (Or.inl rfl) hv ((timestamp_eq_ok_iff hv).2 hread)

end Time

end CloudEvents
