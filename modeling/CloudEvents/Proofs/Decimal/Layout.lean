import CloudEvents.Decimal.Layout
import Mathlib.Data.List.DropRight
/-!
# What texts of numbers look like

A numeral is a row of digits without leading zeros, then perhaps a point with more digits, then
perhaps an exponent with a sign. The text of every finite double is a numeral with at least one of
the last two parts, and a minus sign before it if the double is negative.

That rests on one fact about the search for the fewest digits: what it finds is never zero, because
zero lies below the interval of every positive double (`Grid.hits_zero`). So the digits begin with
one that is not zero, and they still do when the zeros at their end are taken off.

## Main statements

* `Binary.shortest_pos`: the digits of a positive double are not zero;
* `exists_isNumeral_text`: the text of a finite double is a numeral, with or without a minus sign.
-/

namespace CloudEvents

namespace Text

/-- One digit or more. -/
structure IsDigits (ds : List Char) : Prop where
  /-- There is a digit. -/
  ne_nil : ds ≠ []
  /-- There is nothing else. -/
  digits : ∀ c ∈ ds, c.isDigit = true

/-- Digits of which the first is not zero. -/
structure IsSignificant (ds : List Char) : Prop where
  /-- There are only digits. -/
  digits : ∀ c ∈ ds, c.isDigit = true
  /-- The first is not zero. -/
  start : ∃ d rest, ds = d :: rest ∧ d ≠ '0'

/-- The digits of a whole number: a zero alone, or digits of which the first is not zero. -/
def IsWhole (ds : List Char) : Prop := ds = ['0'] ∨ IsSignificant ds

/-- A point with digits, or nothing. -/
inductive IsFraction : List Char → Prop where
  /-- Nothing. -/
  | none : IsFraction []
  /-- A point with digits. -/
  | point {ds : List Char} (h : IsDigits ds) : IsFraction ('.' :: ds)

/-- An exponent with a sign, or nothing. -/
inductive IsExponent : List Char → Prop where
  /-- Nothing. -/
  | none : IsExponent []
  /-- A sign and digits. -/
  | signed {sign : Char} {ds : List Char} (hsign : sign = '-' ∨ sign = '+') (h : IsDigits ds) :
    IsExponent ('e' :: sign :: ds)

/-- The text of a number that is not written as an integer, without its sign. -/
inductive IsNumeral : List Char → Prop where
  /-- A whole number, a fraction and an exponent, of which one may be missing. -/
  | of {whole fraction exponent : List Char} (hwhole : IsWhole whole)
    (hfraction : IsFraction fraction) (hexponent : IsExponent exponent)
    (h : fraction ≠ [] ∨ exponent ≠ []) : IsNumeral (whole ++ fraction ++ exponent)

theorem IsSignificant.isDigits {ds : List Char} (h : IsSignificant ds) : IsDigits ds := by
  obtain ⟨d, rest, rfl, -⟩ := h.start
  exact ⟨List.cons_ne_nil d rest, h.digits⟩

theorem IsSignificant.append {ds ds' : List Char} (h : IsSignificant ds)
    (h' : ∀ c ∈ ds', c.isDigit = true) : IsSignificant (ds ++ ds') := by
  obtain ⟨d, rest, rfl, hd⟩ := h.start
  exact ⟨List.forall_mem_append.2 ⟨h.digits, h'⟩, d, rest ++ ds', rfl, hd⟩

/-- The first digits, if there are any, begin like all of them. -/
theorem IsSignificant.of_prefix {ds ds' : List Char} (h : IsSignificant ds) (hfront : ds' <+: ds)
    (hne : ds' ≠ []) : IsSignificant ds' := by
  obtain ⟨d, rest, rfl, hd⟩ := h.start
  obtain ⟨d', rest', rfl⟩ := List.exists_cons_of_ne_nil hne
  have hhead : d' = d := (List.cons_prefix_cons.1 hfront).1
  exact ⟨fun c hc => h.digits c (hfront.subset hc), d', rest', rfl, hhead ▸ hd⟩

theorem isDigit_of_mem_replicate {n : Nat} {c : Char} (h : c ∈ List.replicate n '0') :
    c.isDigit = true := by
  rw [List.eq_of_mem_replicate h]
  rfl

/-- A number other than zero has no leading zeros. -/
theorem isSignificant_decimal {n : Nat} (h : n ≠ 0) : IsSignificant (decimal n) := by
  refine ⟨fun _ => isDigit_of_mem_decimal, ?_⟩
  induction n using Nat.strongRecOn with
  | ind n ih =>
    rw [decimal, Nat.toDigits_eq_if (by decide)]
    by_cases hn : n < 10
    · have all : ∀ d, d < 10 → d ≠ 0 → Nat.digitChar d ≠ '0' := by decide
      rw [if_pos hn]
      exact ⟨_, [], rfl, all n hn h⟩
    · obtain ⟨d, ds, hds, hd⟩ := ih (n / 10) (by omega) (by omega)
      rw [decimal] at hds
      rw [if_neg hn, hds]
      exact ⟨d, _, rfl, hd⟩

theorem isWhole_decimal (n : Nat) : IsWhole (decimal n) := by
  by_cases h : n = 0
  · rw [h, decimal, Nat.toDigits_zero]
    exact Or.inl rfl
  · exact Or.inr (isSignificant_decimal h)

theorem IsWhole.isDigits {ds : List Char} (h : IsWhole ds) : IsDigits ds := by
  rcases h with rfl | h
  · exact ⟨List.cons_ne_nil _ _, by simp⟩
  · exact h.isDigits

theorem isDigits_padded (width n : Nat) : IsDigits (padded width n) where
  ne_nil := List.append_ne_nil_of_right_ne_nil _ (decimal_ne_nil n)
  digits := List.forall_mem_append.2
    ⟨fun _ => isDigit_of_mem_replicate, fun _ => isDigit_of_mem_decimal⟩

/-- Digits keep their first one when the zeros at their end are taken off. -/
theorem IsSignificant.trimEnd {ds : List Char} (h : IsSignificant ds) :
    IsSignificant (trimEnd (· == '0') ds) := by
  refine h.of_prefix (List.rdropWhile_prefix _ ds) fun hnil => ?_
  obtain ⟨d, rest, rfl, hd⟩ := h.start
  have hzero := List.rdropWhile_eq_nil_iff.1 hnil d List.mem_cons_self
  exact hd (beq_iff_eq.1 hzero)

end Text

namespace Decimal

open Text

/-! ## The fewest digits -/

theorem twoPow_pos (e : Int) : 0 < twoPow e := Nat.pow_pos (by decide)

theorem tenPow_pos (e : Int) : 0 < tenPow e := Nat.pow_pos (by decide)

theorem Grid.base_pos (g : Grid) : 0 < g.base := Nat.mul_pos (twoPow_pos _) (tenPow_pos _)

theorem Binary.low_pos {b : Binary} (h : 0 < b.mantissa) : 0 < b.low := by
  rw [Binary.low]
  split <;> omega

/-- Zero does not read back as a positive double. -/
theorem Grid.hits_zero {g : Grid} (h : 0 < g.double.mantissa) : g.hits 0 = false := by
  have hlow : 0 < g.double.low * g.base := Nat.mul_pos (Binary.low_pos h) g.base_pos
  rw [← Bool.not_eq_true]
  intro hhits
  rcases Nat.mod_two_eq_zero_or_one g.double.mantissa with hparity | hparity
  · have hle := ((Grid.hits_iff_of_even hparity 0).1 hhits).1
    omega
  · have hlt := ((Grid.hits_iff_of_odd hparity 0).1 hhits).1
    omega

/-- The digits that are found for a positive double are not zero. -/
theorem Binary.shortest_pos {b : Binary} (h : 0 < b.mantissa) : 0 < b.shortest.1 := by
  rw [Binary.shortest]
  simp only
  cases hfound : (List.range 17).findSome? _ with
  | none => exact Nat.mul_pos h (twoPow_pos _)
  | some found =>
    obtain ⟨n, -, hn⟩ := List.exists_of_findSome?_eq_some hfound
    obtain ⟨t, ht, rfl⟩ := Option.map_eq_some_iff.1 hn
    have hhits := Grid.hits_of_hit? ht
    refine Nat.pos_of_ne_zero fun hzero => ?_
    rw [show t = 0 from hzero, Grid.hits_zero h] at hhits
    cases hhits

/-! ## Layouts -/

variable {digits : List Char}

theorem isNumeral_positional (h : IsSignificant digits) (e : Int) :
    IsNumeral (positional digits e) := by
  have hzeros : ∀ n, ∀ c ∈ List.replicate n '0', c.isDigit = true :=
    fun _ _ => isDigit_of_mem_replicate
  rw [positional]
  by_cases he : e < 0
  · have hfraction : IsDigits (List.replicate (-e - 1).toNat '0' ++ digits) :=
      ⟨List.append_ne_nil_of_right_ne_nil _ h.isDigits.ne_nil,
        List.forall_mem_append.2 ⟨hzeros _, h.digits⟩⟩
    rw [if_pos he]
    simpa using IsNumeral.of (Or.inl rfl) (.point hfraction) .none (Or.inl (List.cons_ne_nil _ _))
  · rw [if_neg he]
    simp only
    by_cases hlen : digits.length ≤ e.toNat + 1
    · have hfraction : IsDigits ['0'] := ⟨List.cons_ne_nil _ _, by simp⟩
      rw [if_pos hlen]
      simpa using IsNumeral.of (Or.inr (h.append (hzeros (e.toNat + 1 - digits.length))))
        (.point hfraction) .none (Or.inl (List.cons_ne_nil _ _))
    · have hwhole : digits.take (e.toNat + 1) ≠ [] := by
        rw [Ne, List.take_eq_nil_iff]
        rintro (hzero | hnil)
        · omega
        · exact h.isDigits.ne_nil hnil
      have hfraction : IsDigits (digits.drop (e.toNat + 1)) :=
        ⟨fun hnil => hlen (List.drop_eq_nil_iff.1 hnil),
          fun c hc => h.digits c (List.mem_of_mem_drop hc)⟩
      rw [if_neg hlen]
      simpa using IsNumeral.of (Or.inr (h.of_prefix (List.take_prefix _ _) hwhole))
        (.point hfraction) .none (Or.inl (List.cons_ne_nil _ _))

theorem isNumeral_scientific (width : Nat) (h : IsSignificant digits) (e : Int) :
    IsNumeral (scientific width digits e) := by
  obtain ⟨d, ds, rfl, hd⟩ := h.start
  have hwhole : IsWhole [d] := Or.inr (h.of_prefix ⟨ds, rfl⟩ (List.cons_ne_nil _ _))
  have hsign : (if e < 0 then '-' else '+') = '-' ∨ (if e < 0 then '-' else '+') = '+' := by
    split
    · exact Or.inl rfl
    · exact Or.inr rfl
  have hexponent := IsExponent.signed hsign (isDigits_padded width e.natAbs)
  rw [scientific]
  cases ds with
  | nil => simpa using IsNumeral.of hwhole .none hexponent (Or.inr (List.cons_ne_nil _ _))
  | cons d' ds =>
    have hfraction : IsDigits (d' :: ds) :=
      ⟨List.cons_ne_nil _ _, fun c hc => h.digits c (List.mem_cons_of_mem d hc)⟩
    simpa using IsNumeral.of hwhole (.point hfraction) hexponent (Or.inl (List.cons_ne_nil _ _))

theorem Layout.isNumeral_text (l : Layout) {b : Binary} (h : 0 < b.mantissa) :
    IsNumeral (l.text b) := by
  have hdigits := (isSignificant_decimal (Nat.ne_of_gt (Binary.shortest_pos h))).trimEnd
  rw [Layout.text]
  simp only
  split
  · exact isNumeral_positional hdigits _
  · exact isNumeral_scientific _ hdigits _

/-! ## Doubles -/

/-- Bits with a full exponent are an infinity or not a number. -/
theorem isInf_or_isNaN_of_full (bits : BitVec Float.Model.Format.binary64.numBits)
    (h : bits.toNat / fractionSize % 2048 = 2047) :
    (Float.Model.UnpackedFloat.unpack .binary64 bits).isInf = true ∨
      (Float.Model.UnpackedFloat.unpack .binary64 bits).isNaN = true := by
  have hones : Float.Model.UnpackedFloat.unpackExponent bits = -1#_ := by
    refine BitVec.eq_of_toNat_eq ?_
    simp only [Float.Model.UnpackedFloat.unpackExponent, BitVec.toNat_cast,
      BitVec.extractLsb_toNat, Nat.shiftRight_eq_div_pow]
    exact h
  have hunpack : Float.Model.UnpackedFloat.unpack .binary64 bits =
      if Float.Model.UnpackedFloat.unpackMantissa bits = 0#_ then
        .infinity (.ofBitVec (Float.Model.UnpackedFloat.unpackSign bits))
      else .notANumber := if_pos hones
  rw [hunpack]
  split
  · exact Or.inl rfl
  · exact Or.inr rfl

/-- The exponent of a finite double is not full. -/
theorem exponent_ne_of_finite {x : Float} (hnan : x.isNaN = false) (hinf : x.isInf = false) :
    x.toBits.toNat / fractionSize % 2048 ≠ 2047 := by
  intro hfull
  rcases isInf_or_isNaN_of_full x.toBits.toBitVec hfull with h | h
  · exact Bool.false_ne_true (hinf.symm.trans h)
  · exact Bool.false_ne_true (hnan.symm.trans h)

theorem Binary.ofFields_mantissa_pos {exponent fraction : Nat}
    (h : ¬(exponent = 0 ∧ fraction = 0)) : 0 < (Binary.ofFields exponent fraction).mantissa := by
  rw [Binary.ofFields]
  split
  · rename_i hexponent
    exact Nat.pos_of_ne_zero fun hfraction => h ⟨hexponent, hfraction⟩
  · exact Nat.add_pos_left (by decide) _

/-- The text of a finite double is a numeral, perhaps after a minus sign. -/
theorem exists_isNumeral_text {x : Float} (hnan : x.isNaN = false) (hinf : x.isInf = false) :
    ∃ cs, IsNumeral cs ∧ (text x = cs ∨ text x = '-' :: cs) := by
  have hsign : ∀ (p : Prop) [Decidable p] (cs : List Char),
      (if p then [] else ['-']) ++ cs = cs ∨ (if p then [] else ['-']) ++ cs = '-' :: cs := by
    intro p _ cs
    split
    · exact Or.inl rfl
    · exact Or.inr rfl
  rw [text, textOfBits, if_neg (exponent_ne_of_finite hnan hinf)]
  split
  · have hfraction : IsDigits ['0'] := ⟨List.cons_ne_nil _ _, by simp⟩
    exact ⟨['0', '.', '0'], .of (Or.inl rfl) (.point hfraction) .none
      (Or.inl (List.cons_ne_nil _ _)), hsign _ _⟩
  · rename_i hfields
    exact ⟨_, Layout.usual.isNumeral_text (Binary.ofFields_mantissa_pos hfields), hsign _ _⟩

end Decimal

end CloudEvents
