import CloudEvents.Json.Reader
import CloudEvents.Json.Writer
import CloudEvents.Proofs.Decimal.Layout
/-!
# Numbers that are read back

An integer is written in base ten without leading zeros, a finite double as a numeral that has a
fraction or an exponent. The reader takes the longest number, so each of them is read whole whenever
the text after it does not go on with one: where no digit, fraction or exponent follows. After a
value inside a document stands a comma, a closing bracket or nothing.

Writer and reader have the same limit of digits, so that an integer is read back if it has a text at
all.

## Main statements

* `writeInt_eq_ok_iff`, `number?_signed`: an integer that is not too long is written and read back;
* `number?_of_long`: one that is too long is found so;
* `exists_number?_text`: the text of a finite double is read as a double.
-/

namespace CloudEvents

namespace Json

open Text (IsDigits IsWhole IsFraction IsExponent IsNumeral)

/-- What may come after a value: a comma, a closing bracket or nothing. -/
def Delimited (rest : List Char) : Prop := ∀ c ∈ rest.head?, c = ',' ∨ c = ']' ∨ c = '\x7d'

/-- What may come after digits: anything but a digit. -/
def EndsDigits (rest : List Char) : Prop := ∀ c ∈ rest.head?, c.isDigit = false

/-- A text begins with a digit. -/
def StartsWithDigit (cs : List Char) : Prop := ∃ d ds, cs = d :: ds ∧ d.isDigit = true

variable {cs rest : List Char}

theorem Delimited.endsDigits (h : Delimited rest) : EndsDigits rest := by
  intro c hc
  rcases h c hc with rfl | rfl | rfl <;> decide

theorem Delimited.head?_ne_point (h : Delimited rest) : rest.head? ≠ some '.' := fun hhead => by
  rcases h _ hhead with h | h | h <;> cases h

theorem endsDigits_cons {c : Char} (h : c.isDigit = false) (rest : List Char) :
    EndsDigits (c :: rest) := by
  intro c' hc
  rw [List.head?_cons, Option.mem_some_iff] at hc
  rw [← hc, h]

theorem startsWithDigit_append {ds : List Char} (h : IsDigits ds) (rest : List Char) :
    StartsWithDigit (ds ++ rest) := by
  obtain ⟨d, ds', rfl⟩ := List.exists_cons_of_ne_nil h.ne_nil
  exact ⟨d, ds' ++ rest, rfl, h.digits d List.mem_cons_self⟩

theorem startsWithDigit_of_isDigits {ds : List Char} (h : IsDigits ds) : StartsWithDigit ds := by
  have hstart := startsWithDigit_append h []
  rwa [List.append_nil] at hstart

theorem startsWithDigit_decimal (n : Nat) : StartsWithDigit (Text.decimal n) :=
  startsWithDigit_of_isDigits (Text.isWhole_decimal n).isDigits

theorem ne_of_isDigit {c d : Char} (hd : d.isDigit = true) (hc : c.isDigit = false) : d ≠ c := by
  rintro rfl
  rw [hd] at hc
  cases hc

theorem isSpace_of_isDigit {d : Char} (hd : d.isDigit = true) : isSpace d = false := by
  have hne : ∀ c : Char, c.isDigit = false → d ≠ c := fun _ => ne_of_isDigit hd
  simp [isSpace, hne ' ' rfl, hne '\t' rfl, hne '\n' rfl, hne '\r' rfl]

/-! ## The parts of a number -/

theorem digits?_append {ds : List Char} (hds : IsDigits ds) (h : EndsDigits rest) :
    digits? (ds ++ rest) = some (ds, rest) := by
  have hrest : rest.takeWhile Char.isDigit = [] ∧ rest.dropWhile Char.isDigit = rest := by
    cases rest with
    | nil => exact ⟨rfl, rfl⟩
    | cons c rest =>
      have hc : c.isDigit = false := h c rfl
      rw [List.takeWhile_cons, List.dropWhile_cons, hc]
      exact ⟨rfl, rfl⟩
  rw [digits?, List.takeWhile_append_of_pos hds.digits, List.dropWhile_append_of_pos hds.digits,
    hrest.1, hrest.2, List.append_nil]
  obtain ⟨d, ds', rfl⟩ := List.exists_cons_of_ne_nil hds.ne_nil
  rfl

theorem whole?_append {ds : List Char} (hds : IsWhole ds) (h : EndsDigits rest) :
    whole? (ds ++ rest) = some (ds, rest) := by
  rcases hds with rfl | hds
  · rfl
  · have hread := digits?_append hds.isDigits h
    obtain ⟨d, ds', rfl, hd⟩ := hds.start
    rw [List.cons_append, whole?, ← List.cons_append, hread]
    exact fun _ heq => hd (List.cons.inj heq).1

/-- The fraction of a numeral is read if it has one. -/
theorem exists_fraction?_append {fraction : List Char} (hfraction : IsFraction fraction) :
    ∃ f, (f = none ↔ fraction = []) ∧ ∀ rest, EndsDigits rest → rest.head? ≠ some '.' →
      fraction? (fraction ++ rest) = f.map (·, rest) := by
  cases hfraction with
  | none =>
    refine ⟨none, iff_of_true rfl rfl, fun rest _ hpoint => ?_⟩
    cases rest with
    | nil => rfl
    | cons c rest =>
      rw [List.nil_append, fraction?]
      · rfl
      · rintro _ ⟨⟩
        exact hpoint rfl
  | @point ds hds =>
    refine ⟨some ds, iff_of_false (Option.some_ne_none _) (List.cons_ne_nil _ _),
      fun rest h _ => ?_⟩
    rw [List.cons_append, fraction?, digits?_append hds h]
    rfl

/-- The exponent of a numeral is read if it has one. -/
theorem exists_exponent?_append {exponent : List Char} (hexponent : IsExponent exponent) :
    ∃ e, (e = none ↔ exponent = []) ∧ ∀ rest, Delimited rest →
      exponent? (exponent ++ rest) = e.map (·, rest) := by
  cases hexponent with
  | none =>
    refine ⟨none, iff_of_true rfl rfl, fun rest h => ?_⟩
    cases rest with
    | nil => rfl
    | cons c rest => rcases h c rfl with rfl | rfl | rfl <;> rfl
  | @signed sign ds hsign hds =>
    have hread := fun rest (h : Delimited rest) => digits?_append hds h.endsDigits
    rcases hsign with rfl | rfl
    · refine ⟨some (-(Text.natOfDigits ds : Int)),
        iff_of_false (Option.some_ne_none _) (List.cons_ne_nil _ _), fun rest h => ?_⟩
      rw [List.cons_append, List.cons_append, exponent?, if_pos (Or.inl rfl), hread rest h]
      rfl
    · refine ⟨some (Text.natOfDigits ds : Int),
        iff_of_false (Option.some_ne_none _) (List.cons_ne_nil _ _), fun rest h => ?_⟩
      rw [List.cons_append, List.cons_append, exponent?, if_pos (Or.inl rfl), hread rest h]
      rfl

/-- A number is read part by part. -/
theorem unsigned?_of_parts {whole fraction exponent : List Char} {f : Option (List Char)}
    {e : Option Int} (hwhole : whole? cs = some (whole, fraction ++ (exponent ++ rest)))
    (hfraction : fraction? (fraction ++ (exponent ++ rest)) = f.map (·, exponent ++ rest))
    (hf : f = none ↔ fraction = []) (hexponent : exponent? (exponent ++ rest) = e.map (·, rest))
    (he : e = none ↔ exponent = []) (negative : Bool) :
    unsigned? negative cs = some (numberValue negative whole f e, rest) := by
  rw [unsigned?, hwhole]
  simp only [Option.bind_eq_bind, Option.bind_some, hfraction]
  cases f with
  | none =>
    rw [hf.1 rfl, List.nil_append]
    simp only [Option.map_none, hexponent]
    cases e with
    | none =>
      rw [he.1 rfl, List.nil_append]
      rfl
    | some e => rfl
  | some ds =>
    simp only [Option.map_some, hexponent]
    cases e with
    | none =>
      rw [he.1 rfl, List.nil_append]
      rfl
    | some e => rfl

/-- A number without fraction and exponent is told by its digits. -/
theorem unsigned?_whole (negative : Bool) {ds : List Char} (hds : IsWhole ds)
    (h : Delimited rest) :
    unsigned? negative (ds ++ rest) = some (numberValue negative ds none none, rest) := by
  obtain ⟨f, hf, hfraction⟩ := exists_fraction?_append .none
  obtain ⟨e, he, hexponent⟩ := exists_exponent?_append .none
  have hwhole : whole? (ds ++ rest) = some (ds, [] ++ ([] ++ rest)) :=
    whole?_append hds h.endsDigits
  rw [unsigned?_of_parts hwhole (hfraction rest h.endsDigits h.head?_ne_point) hf
    (hexponent rest h) he, hf.2 rfl, he.2 rfl]

theorem numberValue_whole (negative : Bool) (ds : List Char) :
    numberValue negative ds none none
      = if Text.digitLimit < ds.length then .error (.read ds.length)
        else .ok (.int (if negative then -(Text.natOfDigits ds : Int) else Text.natOfDigits ds)) :=
  rfl

theorem exists_numberValue_eq_float (negative : Bool) (whole : List Char) {f : Option (List Char)}
    {e : Option Int} (h : f ≠ none ∨ e ≠ none) :
    ∃ x, numberValue negative whole f e = .ok (.float x) := by
  have hparts : ¬(f.isNone && e.isNone) = true := by
    rw [Bool.and_eq_true, Option.isNone_iff_eq_none, Option.isNone_iff_eq_none]
    rintro ⟨hf, he⟩
    exact h.elim (· hf) (· he)
  rw [numberValue, if_neg hparts]
  exact ⟨_, rfl⟩

/-- A numeral with a fraction or an exponent is read as a double. -/
theorem exists_unsigned?_numeral (hcs : IsNumeral cs) (negative : Bool) :
    ∃ x, ∀ rest, Delimited rest →
      unsigned? negative (cs ++ rest) = some (.ok (.float x), rest) := by
  cases hcs with
  | @of whole fraction exponent hwhole hfraction hexponent hparts =>
    obtain ⟨f, hf, hread⟩ := exists_fraction?_append hfraction
    obtain ⟨e, he, hread'⟩ := exists_exponent?_append hexponent
    obtain ⟨x, hx⟩ := exists_numberValue_eq_float negative whole
      (hparts.imp (fun hne heq => hne (hf.1 heq)) fun hne heq => hne (he.1 heq))
    refine ⟨x, fun rest h => ?_⟩
    have hmark : EndsDigits (exponent ++ rest) ∧ (exponent ++ rest).head? ≠ some '.' := by
      cases hexponent with
      | none => exact ⟨h.endsDigits, h.head?_ne_point⟩
      | signed _ _ => exact ⟨endsDigits_cons rfl _, by simp⟩
    have hends : EndsDigits (fraction ++ (exponent ++ rest)) := by
      cases hfraction with
      | none => exact hmark.1
      | point _ => exact endsDigits_cons rfl _
    rw [List.append_assoc, List.append_assoc, unsigned?_of_parts (whole?_append hwhole hends)
      (hread _ hmark.1 hmark.2) hf (hread' rest h) he, hx]

/-! ## Numbers with their sign -/

theorem number?_of_digit (hcs : StartsWithDigit cs) (rest : List Char) :
    number? (cs ++ rest) = unsigned? false (cs ++ rest) := by
  obtain ⟨d, ds, rfl, hd⟩ := hcs
  rw [List.cons_append, number?]
  rintro _ ⟨⟩
  cases hd

/-- No word begins like a number. -/
theorem word?_of_digit (hcs : StartsWithDigit cs) (rest : List Char) :
    word? (cs ++ rest) = none ∧ word? ('-' :: cs ++ rest) = none := by
  obtain ⟨d, ds, rfl, hd⟩ := hcs
  have hne : ∀ c : Char, c.isDigit = false → c ≠ d := fun _ hc => (ne_of_isDigit hd hc).symm
  constructor
  · simp [word?, words, List.isPrefixOf, hne 'n' rfl, hne 't' rfl, hne 'f' rfl, hne 'N' rfl,
      hne 'I' rfl, hne '-' rfl]
  · simp [word?, words, List.isPrefixOf, hne 'I' rfl]

/-- The text of an integer is its digits, perhaps after a minus sign. -/
theorem exists_signed_eq (n : Int) :
    ∃ cs, StartsWithDigit cs ∧ (Text.signed n = cs ∨ Text.signed n = '-' :: cs) := by
  refine ⟨_, startsWithDigit_decimal n.natAbs, ?_⟩
  rw [Text.signed]
  split
  · exact Or.inr rfl
  · exact Or.inl rfl

/-- An integer is written if it is not too long. -/
theorem writeInt_eq_ok_iff {n : Int} {cs : List Char} :
    writeInt n = .ok cs ↔ Text.IsShort n ∧ Text.signed n = cs := by
  rw [writeInt, Text.integer]
  by_cases h : Text.IsShort n
  · rw [if_pos h, and_iff_right h]
    exact ⟨Except.ok.inj, congrArg Except.ok⟩
  · rw [if_neg h]
    exact iff_of_false (fun heq => by cases heq) fun hboth => h hboth.1

/-- Such an integer is read back from its text. -/
theorem number?_signed {n : Int} (hn : Text.IsShort n) (h : Delimited rest) :
    number? (Text.signed n ++ rest) = some (.ok (.int n), rest) := by
  have hwhole := Text.isWhole_decimal n.natAbs
  rw [Text.signed]
  by_cases hneg : n < 0
  · have habs : -(n.natAbs : Int) = n := by omega
    rw [if_pos hneg, List.cons_append, number?, unsigned?_whole true hwhole h, numberValue_whole,
      if_neg (Nat.not_lt.2 hn), if_pos rfl, Text.natOfDigits_decimal, habs]
  · have habs : (n.natAbs : Int) = n := by omega
    rw [if_neg hneg, number?_of_digit (startsWithDigit_decimal _), unsigned?_whole false hwhole h,
      numberValue_whole, if_neg (Nat.not_lt.2 hn), if_neg Bool.false_ne_true,
      Text.natOfDigits_decimal, habs]

/-- An integer with too many digits ends the reading. -/
theorem number?_of_long {ds : List Char} (hds : IsWhole ds) (hlong : Text.digitLimit < ds.length)
    (h : Delimited rest) : number? (ds ++ rest) = some (.error (.read ds.length), rest) := by
  rw [number?_of_digit (startsWithDigit_of_isDigits hds.isDigits), unsigned?_whole false hds h,
    numberValue_whole, if_pos hlong]

theorem startsWithDigit_numeral (h : IsNumeral cs) : StartsWithDigit cs := by
  cases h with
  | of hwhole _ _ _ =>
    rw [List.append_assoc]
    exact startsWithDigit_append hwhole.isDigits _

/-- The text of a finite double is read as a double. -/
theorem exists_number?_text {x : Float} (hnan : x.isNaN = false) (hinf : x.isInf = false) :
    ∃ y, ∀ rest, Delimited rest →
      number? (Decimal.text x ++ rest) = some (.ok (.float y), rest) := by
  obtain ⟨cs, hcs, htext⟩ := Decimal.exists_isNumeral_text hnan hinf
  rcases htext with htext | htext
  · obtain ⟨y, hy⟩ := exists_unsigned?_numeral hcs false
    refine ⟨y, fun rest h => ?_⟩
    rw [htext, number?_of_digit (startsWithDigit_numeral hcs), hy rest h]
  · obtain ⟨y, hy⟩ := exists_unsigned?_numeral hcs true
    refine ⟨y, fun rest h => ?_⟩
    rw [htext]
    exact hy rest h

/-! ## The characters of a number -/

theorem isAscii_of_isDigit {c : Char} (h : c.isDigit = true) : c.toNat < 0x80 := by
  simp only [Char.isDigit, Bool.and_eq_true, decide_eq_true_eq] at h
  have hle : c.val.toNat ≤ 57 := h.2
  rw [Char.toNat]
  omega

theorem isAscii_signed {n : Int} {c : Char} (hc : c ∈ Text.signed n) : c.toNat < 0x80 := by
  rw [Text.signed] at hc
  split at hc
  · rcases List.mem_cons.1 hc with rfl | hc
    · decide
    · exact isAscii_of_isDigit (Text.isDigit_of_mem_decimal hc)
  · exact isAscii_of_isDigit (Text.isDigit_of_mem_decimal hc)

theorem isAscii_numeral (h : IsNumeral cs) {c : Char} (hc : c ∈ cs) : c.toNat < 0x80 := by
  cases h with
  | of hwhole hfraction hexponent _ =>
    rcases List.mem_append.1 hc with hc | hc
    · rcases List.mem_append.1 hc with hc | hc
      · exact isAscii_of_isDigit (hwhole.isDigits.digits c hc)
      · cases hfraction with
        | none => cases hc
        | point hds =>
          rcases List.mem_cons.1 hc with rfl | hc
          · decide
          · exact isAscii_of_isDigit (hds.digits c hc)
    · cases hexponent with
      | none => cases hc
      | signed hsign hds =>
        rcases List.mem_cons.1 hc with rfl | hc
        · decide
        · rcases List.mem_cons.1 hc with rfl | hc
          · rcases hsign with rfl | rfl <;> decide
          · exact isAscii_of_isDigit (hds.digits c hc)

theorem isAscii_text {x : Float} (hnan : x.isNaN = false) (hinf : x.isInf = false) {c : Char}
    (hc : c ∈ Decimal.text x) : c.toNat < 0x80 := by
  obtain ⟨cs, hcs, htext⟩ := Decimal.exists_isNumeral_text hnan hinf
  rcases htext with htext | htext
  · exact isAscii_numeral hcs (htext ▸ hc)
  · rw [htext] at hc
    rcases List.mem_cons.1 hc with rfl | hc
    · decide
    · exact isAscii_numeral hcs hc

end Json

end CloudEvents
