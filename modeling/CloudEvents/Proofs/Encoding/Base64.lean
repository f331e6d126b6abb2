import CloudEvents.Encoding.Base64
import Mathlib.Data.List.Forall2
/-!
# Bytes that are read back from Base64

What is written for bytes is strict Base64 of them. The induction follows the writer: groups of
three bytes, and at the end one byte with two paddings or two bytes with one. The reader counts
digits, and at the beginning of a group their number is a multiple of four.

What else is strict Base64 is told without the reader (`IsStrict`): digits, and then the paddings
that fill up the last group. The reader does not mind what the last digit has in excess, nor surplus
padding after a full group.

## Main statements

* `decode_encode`: what is written is read back;
* `decode_eq_ok_iff`: what is read is strict Base64, and all of that.
-/

namespace CloudEvents.Encoding.Base64

/-- A text as the bytes of its characters. -/
def ascii (cs : List Char) : List UInt8 := cs.map fun c => UInt8.ofNat c.toNat

theorem ascii_cons (c : Char) (cs : List Char) :
    ascii (c :: cs) = UInt8.ofNat c.toNat :: ascii cs := rfl

theorem digit_ne_padding {n : Nat} (h : n < 64) : UInt8.ofNat (digit n).toNat ≠ 0x3D := by
  intro heq
  have hvalue := value?_digit h
  rw [heq] at hvalue
  cases hvalue

theorem digits_digit {n : Nat} (h : n < 64) (count pads : Nat) (cs : List Char) :
    digits count pads false (ascii (digit n :: cs))
      = (digits (count + 1) 0 false (ascii cs)).map (n :: ·) := by
  rw [ascii_cons, digits, if_neg (digit_ne_padding h), value?_digit h]
  rfl

/-- The padding of a last group of one byte. -/
theorem digits_two_paddings {count : Nat} (h : count % 4 = 2) :
    digits count 0 false (ascii ['=', '=']) = .ok [] := by
  simp [digits, ascii, h]

/-- The padding of a last group of two bytes. -/
theorem digits_one_padding {count : Nat} (h : count % 4 = 3) :
    digits count 0 false (ascii ['=']) = .ok [] := by
  simp [digits, ascii, h]

/-- The digits of bytes are read, and make up the bytes again. -/
theorem exists_digits_encode (bs : List UInt8) (count pads : Nat) (h : count % 4 = 0) :
    ∃ ns, digits count pads false (ascii (encode bs)) = .ok ns ∧ assemble ns = bs := by
  induction bs using encode.induct generalizing count pads with
  | case1 =>
    refine ⟨[], ?_, rfl⟩
    rw [encode, ascii, List.map_nil, digits, if_pos h]
  | case2 a =>
    have ha := a.toNat_lt
    refine ⟨[a.toNat / 4, a.toNat % 4 * 16], ?_, ?_⟩
    · rw [encode, digits_digit (by omega), digits_digit (by omega), digits_two_paddings (by omega)]
      rfl
    · have hbyte : a.toNat / 4 * 4 + a.toNat % 4 * 16 / 16 = a.toNat := by omega
      rw [assemble, hbyte, UInt8.ofNat_toNat]
  | case3 a b =>
    have ha := a.toNat_lt
    have hb := b.toNat_lt
    refine ⟨[a.toNat / 4, a.toNat % 4 * 16 + b.toNat / 16, b.toNat % 16 * 4], ?_, ?_⟩
    · rw [encode, digits_digit (by omega), digits_digit (by omega), digits_digit (by omega),
        digits_one_padding (by omega)]
      rfl
    · have hfirst : a.toNat / 4 * 4 + (a.toNat % 4 * 16 + b.toNat / 16) / 16 = a.toNat := by omega
      have hsecond : (a.toNat % 4 * 16 + b.toNat / 16) % 16 * 16 + b.toNat % 16 * 4 / 4
          = b.toNat := by omega
      rw [assemble, hfirst, hsecond, UInt8.ofNat_toNat, UInt8.ofNat_toNat]
  | case4 a b c rest ih =>
    have ha := a.toNat_lt
    have hb := b.toNat_lt
    have hc := c.toNat_lt
    obtain ⟨ns, hns, hrest⟩ := ih (count + 4) 0 (by omega)
    refine ⟨a.toNat / 4 :: (a.toNat % 4 * 16 + b.toNat / 16)
      :: (b.toNat % 16 * 4 + c.toNat / 64) :: c.toNat % 64 :: ns, ?_, ?_⟩
    · rw [encode, digits_digit (by omega), digits_digit (by omega), digits_digit (by omega),
        digits_digit (by omega), hns]
      rfl
    · have hfirst : a.toNat / 4 * 4 + (a.toNat % 4 * 16 + b.toNat / 16) / 16 = a.toNat := by omega
      have hsecond : (a.toNat % 4 * 16 + b.toNat / 16) % 16 * 16
          + (b.toNat % 16 * 4 + c.toNat / 64) / 4 = b.toNat := by omega
      have hthird : (b.toNat % 16 * 4 + c.toNat / 64) % 4 * 64 + c.toNat % 64 = c.toNat := by omega
      rw [assemble, hfirst, hsecond, hthird, hrest, UInt8.ofNat_toNat, UInt8.ofNat_toNat,
        UInt8.ofNat_toNat]

theorem exists_encode_cons (b : UInt8) (bs : List UInt8) :
    ∃ cs, encode (b :: bs) = digit (b.toNat / 4) :: cs := by
  match bs with
  | [] => exact ⟨_, rfl⟩
  | [_] => exact ⟨_, rfl⟩
  | _ :: _ :: _ => exact ⟨_, rfl⟩

/-- Bytes are read back from their Base64. -/
theorem decode_encode (bs : List UInt8) : decode (ascii (encode bs)) = .ok bs := by
  obtain ⟨ns, hns, hbytes⟩ := exists_digits_encode bs 0 0 rfl
  have hhead : (ascii (encode bs)).head? ≠ some 0x3D := by
    cases bs with
    | nil => simp [ascii]
    | cons b bs =>
      have hb := b.toNat_lt
      obtain ⟨cs, hcs⟩ := exists_encode_cons b bs
      rw [hcs, ascii_cons, List.head?_cons]
      exact fun heq => digit_ne_padding (by omega) (Option.some.inj heq)
  rw [decode, if_neg hhead, hns]
  exact congrArg Except.ok hbytes

/-- Base64 is ASCII. -/
theorem isAscii_of_mem_encode {bs : List UInt8} {c : Char} (hc : c ∈ encode bs) :
    c.toNat < 0x80 := by
  have hdigit : ∀ n, n < 64 → (digit n).toNat < 0x80 := by decide
  induction bs using encode.induct with
  | case1 => cases hc
  | case2 a =>
    have ha := a.toNat_lt
    simp only [encode, List.mem_cons, List.not_mem_nil, or_false] at hc
    rcases hc with rfl | rfl | rfl | rfl
    · exact hdigit _ (by omega)
    · exact hdigit _ (by omega)
    · decide
    · decide
  | case3 a b =>
    have ha := a.toNat_lt
    have hb := b.toNat_lt
    simp only [encode, List.mem_cons, List.not_mem_nil, or_false] at hc
    rcases hc with rfl | rfl | rfl | rfl
    · exact hdigit _ (by omega)
    · exact hdigit _ (by omega)
    · exact hdigit _ (by omega)
    · decide
  | case4 a b c rest ih =>
    have ha := a.toNat_lt
    have hb := b.toNat_lt
    have hc' := c.toNat_lt
    simp only [encode, List.mem_cons] at hc
    rcases hc with rfl | rfl | rfl | rfl | hc
    · exact hdigit _ (by omega)
    · exact hdigit _ (by omega)
    · exact hdigit _ (by omega)
    · exact hdigit _ (by omega)
    · exact ih hc

/-! ## Strict Base64 -/

/-- Paddings that may follow a number of digits: two after two digits of a group, one after three,
and any number after a full group. -/
def IsPadding (count : Nat) (text : List UInt8) : Prop :=
  count % 4 = 0 ∧ text = List.replicate text.length 0x3D ∨
    count % 4 = 2 ∧ text = [0x3D, 0x3D] ∨ count % 4 = 3 ∧ text = [0x3D]

/-- A text, given by its ASCII codes, is strict Base64 of bytes: digits that make up the bytes, and
then paddings for their number. It does not begin with a padding. -/
def IsStrict (text bs : List UInt8) : Prop :=
  ∃ ds ns padding, text = ds ++ padding ∧ List.Forall₂ (fun d n => value? d = some n) ds ns ∧
    IsPadding ds.length padding ∧ (ds = [] → padding = []) ∧ assemble ns = bs

@[simp] theorem value?_padding : value? 0x3D = none := by decide

theorem IsPadding.eq_of_cons {count : Nat} {b : UInt8} {rest : List UInt8}
    (h : IsPadding count (b :: rest)) : b = 0x3D := by
  rcases h with ⟨-, h⟩ | ⟨-, h⟩ | ⟨-, h⟩
  · rw [List.length_cons, List.replicate_succ] at h
    exact (List.cons.inj h).1
  · exact (List.cons.inj h).1
  · exact (List.cons.inj h).1

theorem digits_nil_eq_ok_iff {count pads : Nat} {padded : Bool} {ns : List Nat} :
    digits count pads padded [] = .ok ns ↔ ns = [] ∧ count % 4 = 0 := by
  rw [digits]
  by_cases hfull : count % 4 = 0
  · rw [if_pos hfull, Except.ok.injEq, eq_comm]
    simp [hfull]
  · rw [if_neg hfull]
    refine iff_of_false (fun h => ?_) fun h => hfull h.2
    split at h <;> cases h

/-- After a padding no digit is taken. -/
theorem digits_padded_ne_ok {count pads : Nat} {b : UInt8} (hb : b ≠ 0x3D) (rest : List UInt8)
    (ns : List Nat) : digits count pads true (b :: rest) ≠ .ok ns := by
  rw [digits, if_neg hb]
  cases value? b with
  | none => exact fun h => by cases h
  | some n => exact fun h => by cases h

/-- After a padding that fills up nothing only paddings may follow. -/
theorem digits_surplus_eq_ok_iff {count pads : Nat} (hcount : count % 4 < 2) {text : List UInt8}
    {ns : List Nat} :
    digits count pads true text = .ok ns ↔
      ns = [] ∧ count % 4 = 0 ∧ text = List.replicate text.length 0x3D := by
  induction text with
  | nil => simp [digits_nil_eq_ok_iff]
  | cons b rest ih =>
    rw [List.length_cons, List.replicate_succ, List.cons.injEq]
    by_cases hb : b = 0x3D
    · have hopen : ¬2 ≤ count % 4 := by omega
      rw [digits]
      simp only [hb, if_true, hopen, false_and, if_false, ih, true_and]
    · exact iff_of_false (digits_padded_ne_ok hb rest ns) fun h => hb h.2.2.1

/-- The second padding of a group of two digits closes the text. -/
theorem digits_second_padding_eq_ok_iff {count : Nat} (hcount : count % 4 = 2) {text : List UInt8}
    {ns : List Nat} : digits count 1 true text = .ok ns ↔ ns = [] ∧ text = [0x3D] := by
  cases text with
  | nil => simp [digits_nil_eq_ok_iff, hcount]
  | cons b rest =>
    by_cases hb : b = 0x3D
    · cases rest with
      | nil => simp [digits, hb, hcount, eq_comm]
      | cons x rest => simp [digits, hb, hcount]
    · exact iff_of_false (digits_padded_ne_ok hb rest ns) fun h => hb (List.cons.inj h.2).1

/-- The first padding closes the text, or is the first of two, or fills up nothing. -/
theorem digits_padding_eq_ok_iff {count : Nat} {rest : List UInt8} {ns : List Nat} :
    digits count 0 false (0x3D :: rest) = .ok ns ↔ ns = [] ∧ IsPadding count (0x3D :: rest) := by
  rw [digits, if_pos rfl, IsPadding, List.length_cons, List.replicate_succ]
  have hcount : count % 4 < 2 ∨ count % 4 = 2 ∨ count % 4 = 3 := by omega
  rcases hcount with hcount | hcount | hcount
  · have hopen : ¬2 ≤ count % 4 := by omega
    have htwo : count % 4 ≠ 2 := by omega
    have hthree : count % 4 ≠ 3 := by omega
    simp [hopen, digits_surplus_eq_ok_iff hcount, htwo, hthree]
  · simp [hcount, digits_second_padding_eq_ok_iff hcount]
  · cases rest with
    | nil => simp [hcount, eq_comm]
    | cons b rest => simp [hcount]

/-- The reader takes digits as long as there are some, and then paddings for their number. -/
theorem digits_eq_ok_iff {count : Nat} {text : List UInt8} {ns : List Nat} :
    digits count 0 false text = .ok ns ↔
      ∃ ds padding, text = ds ++ padding ∧ List.Forall₂ (fun d n => value? d = some n) ds ns ∧
        IsPadding (count + ds.length) padding := by
  induction text generalizing count ns with
  | nil =>
    rw [digits_nil_eq_ok_iff]
    constructor
    · rintro ⟨rfl, hfull⟩
      exact ⟨[], [], rfl, .nil, Or.inl ⟨hfull, rfl⟩⟩
    · rintro ⟨ds, padding, htext, hvalues, hpadding⟩
      obtain ⟨rfl, rfl⟩ := List.append_eq_nil_iff.1 htext.symm
      refine ⟨List.forall₂_nil_left_iff.1 hvalues, ?_⟩
      simpa [IsPadding] using hpadding
  | cons b rest ih =>
    by_cases hb : b = 0x3D
    · rw [hb, digits_padding_eq_ok_iff]
      constructor
      · rintro ⟨rfl, hpadding⟩
        exact ⟨[], _, rfl, .nil, hpadding⟩
      · rintro ⟨ds, padding, htext, hvalues, hpadding⟩
        cases hvalues with
        | nil =>
          rw [List.nil_append] at htext
          exact ⟨rfl, htext ▸ hpadding⟩
        | cons hvalue _ =>
          rw [← (List.cons.inj htext).1, value?_padding] at hvalue
          cases hvalue
    · constructor
      · intro h
        rw [digits, if_neg hb] at h
        cases hvalue : value? b with
        | none =>
          rw [hvalue] at h
          cases h
        | some n =>
          rw [hvalue] at h
          cases hrest : digits (count + 1) 0 false rest with
          | error fault =>
            rw [hrest] at h
            cases h
          | ok ns' =>
            rw [hrest] at h
            obtain ⟨ds, padding, rfl, hvalues, hpadding⟩ := ih.1 hrest
            refine ⟨b :: ds, padding, rfl, Except.ok.inj h ▸ .cons hvalue hvalues, ?_⟩
            rwa [List.length_cons, Nat.add_comm ds.length, ← Nat.add_assoc]
      · rintro ⟨ds, padding, htext, hvalues, hpadding⟩
        cases hvalues with
        | nil =>
          rw [List.nil_append] at htext
          rw [← htext] at hpadding
          exact absurd hpadding.eq_of_cons hb
        | @cons d n ds ns hvalue hvalues =>
          obtain ⟨rfl, rfl⟩ := List.cons.inj htext
          rw [List.length_cons, Nat.add_comm ds.length, ← Nat.add_assoc] at hpadding
          rw [digits, if_neg hb, hvalue, ih.2 ⟨ds, padding, rfl, hvalues, hpadding⟩]
          rfl

/-- The strict reader takes exactly strict Base64. -/
theorem decode_eq_ok_iff {text bs : List UInt8} : decode text = .ok bs ↔ IsStrict text bs := by
  constructor
  · intro h
    rw [decode] at h
    split at h
    · cases h
    · rename_i hhead
      cases hdigits : digits 0 0 false text with
      | error fault =>
        rw [hdigits] at h
        cases h
      | ok ns =>
        rw [hdigits] at h
        obtain ⟨ds, padding, rfl, hvalues, hpadding⟩ := digits_eq_ok_iff.1 hdigits
        rw [Nat.zero_add] at hpadding
        refine ⟨ds, ns, padding, rfl, hvalues, hpadding, fun hds => ?_, Except.ok.inj h⟩
        cases padding with
        | nil => rfl
        | cons b rest =>
          rw [hds, hpadding.eq_of_cons] at hhead
          exact absurd rfl hhead
  · rintro ⟨ds, ns, padding, rfl, hvalues, hpadding, hbegins, rfl⟩
    have hhead : (ds ++ padding).head? ≠ some 0x3D := by
      cases hvalues with
      | nil =>
        rw [hbegins rfl]
        exact fun h => by cases h
      | cons hvalue _ =>
        intro h
        rw [Option.some.inj h, value?_padding] at hvalue
        cases hvalue
    have hdigits : digits 0 0 false (ds ++ padding) = .ok ns :=
      digits_eq_ok_iff.2 ⟨ds, padding, rfl, hvalues, by rwa [Nat.zero_add]⟩
    rw [decode, if_neg hhead, hdigits]
    rfl

/-- A full group may have surplus padding after it, and a group that is not full has just its own. -/
example : decode (ascii ['Q', 'U', 'J', 'D', '=']) = .ok [65, 66, 67] ∧
    decode (ascii ['Q', 'Q', '=']) = .error .incorrectPadding := by decide

end CloudEvents.Encoding.Base64
