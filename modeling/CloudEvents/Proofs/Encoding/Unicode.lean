import CloudEvents.Encoding.Unicode
import Mathlib.Tactic.Common
/-!
# Characters that are read back

What UTF-8 and UTF-16 write for a character, their readers take as that character and go on with the
rest (`fromUtf8_encodeChar_append`, `fromUtf16_encodeChar_append`). For UTF-8 there are four cases
by the number of bytes. Each of them is one step of the machine for the lead byte and one for every
further byte, with the bits collected so far as the invariant; the bounds of the second byte are the
ones that keep out what a shorter sequence could say, surrogates, and numbers beyond the last
character.
-/

namespace CloudEvents.Encoding

/-! ## UTF-8 -/

/-- The lead byte of a sequence starts it. -/
theorem fromUtf8_cons_lead {b : UInt8} {missing low high bits : Nat} (hb : 0x80 ≤ b.toNat)
    (h : leadByte? b.toNat = some (missing, low, high, bits)) (rest : List UInt8) :
    fromUtf8 (b :: rest) = utf8From (some ⟨b :: rest, 1, missing, low, high, bits⟩) rest := by
  rw [fromUtf8, utf8From, if_neg (by omega), h]

theorem toNat_ofNat_of_lt {n : Nat} (h : n < 256) : (UInt8.ofNat n).toNat = n := by
  rw [UInt8.toNat_ofNat']
  omega

section

variable {start : List UInt8} {taken missing low high bits n : Nat}

/-- A byte that is not the last one adds six bits. -/
theorem utf8From_cons_more (hn : n < 64) (hlow : low ≤ n + 0x80) (hhigh : n + 0x80 ≤ high)
    (rest : List UInt8) :
    utf8From (some ⟨start, taken, missing + 1, low, high, bits⟩) (UInt8.ofNat (n + 0x80) :: rest)
      = utf8From (some ⟨start, taken + 1, missing, 0x80, 0xBF, bits * 64 + n⟩) rest := by
  have hbyte := toNat_ofNat_of_lt (n := n + 0x80) (by omega)
  rw [utf8From, hbyte, if_pos ⟨hlow, hhigh⟩, Nat.add_sub_cancel]

/-- The last byte makes the character. -/
theorem utf8From_cons_last (hn : n < 64) (hlow : low ≤ n + 0x80) (hhigh : n + 0x80 ≤ high)
    (rest : List UInt8) :
    utf8From (some ⟨start, taken, 0, low, high, bits⟩) (UInt8.ofNat (n + 0x80) :: rest)
      = (fromUtf8 rest).map (Char.ofNat (bits * 64 + n) :: ·) := by
  have hbyte := toNat_ofNat_of_lt (n := n + 0x80) (by omega)
  rw [utf8From, hbyte, if_pos ⟨hlow, hhigh⟩, Nat.add_sub_cancel, fromUtf8]

end

theorem leadByte?_two {a : Nat} (h : 2 ≤ a) (h' : a < 0x20) :
    leadByte? (a + 0xC0) = some (0, 0x80, 0xBF, a) := by
  rw [leadByte?, if_pos (by omega), Nat.add_sub_cancel]

/-- The bounds after the lead byte of three keep the second byte of every character. -/
theorem leadByte?_three {v : Nat} (h : 0x800 ≤ v) (h' : v < 0x10000)
    (hsurrogate : v < 0xD800 ∨ 0xE000 ≤ v) :
    ∃ low high, leadByte? (v / 4096 + 0xE0) = some (1, low, high, v / 4096) ∧
      low ≤ v / 64 % 64 + 0x80 ∧ v / 64 % 64 + 0x80 ≤ high := by
  rw [leadByte?, if_neg (by omega)]
  by_cases hfirst : v / 4096 = 0
  · rw [hfirst, if_pos rfl]
    exact ⟨_, _, rfl, by omega, by omega⟩
  · by_cases hlast : v / 4096 = 0xD
    · rw [hlast, if_neg (by omega), if_pos rfl]
      exact ⟨_, _, rfl, by omega, by omega⟩
    · rw [if_neg (by omega), if_neg (by omega), if_pos (by omega), Nat.add_sub_cancel]
      exact ⟨_, _, rfl, by omega, by omega⟩

/-- The bounds after the lead byte of four keep the second byte of every character. -/
theorem leadByte?_four {v : Nat} (h : 0x10000 ≤ v) (h' : v < 0x110000) :
    ∃ low high, leadByte? (v / 262144 + 0xF0) = some (2, low, high, v / 262144) ∧
      low ≤ v / 4096 % 64 + 0x80 ∧ v / 4096 % 64 + 0x80 ≤ high := by
  rw [leadByte?, if_neg (by omega), if_neg (by omega), if_neg (by omega), if_neg (by omega)]
  by_cases hfirst : v / 262144 = 0
  · rw [hfirst, if_pos rfl]
    exact ⟨_, _, rfl, by omega, by omega⟩
  · by_cases hlast : v / 262144 = 4
    · rw [hlast, if_neg (by omega), if_neg (by omega), if_pos rfl]
      exact ⟨_, _, rfl, by omega, by omega⟩
    · rw [if_neg (by omega), if_pos (by omega), Nat.add_sub_cancel]
      exact ⟨_, _, rfl, by omega, by omega⟩

/-- A character is no surrogate, and none is beyond the last one. -/
theorem isValid_toNat (c : Char) :
    c.toNat < 0xD800 ∨ 0xE000 ≤ c.toNat ∧ c.toNat < 0x110000 := by
  rcases c.valid with h | ⟨h, h'⟩
  · exact Or.inl h
  · exact Or.inr ⟨by rw [Char.toNat]; omega, h'⟩

theorem fromUtf8_two {v : Nat} (h : 0x80 ≤ v) (h' : v < 0x800) (rest : List UInt8) :
    fromUtf8 (UInt8.ofNat (v / 64 % 0x20 + 0xC0) :: UInt8.ofNat (v % 0x40 + 0x80) :: rest)
      = (fromUtf8 rest).map (Char.ofNat v :: ·) := by
  have hlead : (UInt8.ofNat (v / 64 % 0x20 + 0xC0)).toNat = v / 64 + 0xC0 := by
    rw [toNat_ofNat_of_lt (by omega)]
    omega
  have hbits : v / 64 * 64 + v % 0x40 = v := by omega
  rw [fromUtf8_cons_lead (by omega) (by rw [hlead, leadByte?_two (by omega) (by omega)]),
    utf8From_cons_last (by omega) (by omega) (by omega), hbits]

theorem fromUtf8_three {v : Nat} (h : 0x800 ≤ v) (h' : v < 0x10000)
    (hsurrogate : v < 0xD800 ∨ 0xE000 ≤ v) (rest : List UInt8) :
    fromUtf8 (UInt8.ofNat (v / 4096 % 0x10 + 0xE0) :: UInt8.ofNat (v / 64 % 0x40 + 0x80)
        :: UInt8.ofNat (v % 0x40 + 0x80) :: rest)
      = (fromUtf8 rest).map (Char.ofNat v :: ·) := by
  obtain ⟨low, high, hstart, hlow, hhigh⟩ := leadByte?_three h h' hsurrogate
  have hlead : (UInt8.ofNat (v / 4096 % 0x10 + 0xE0)).toNat = v / 4096 + 0xE0 := by
    rw [toNat_ofNat_of_lt (by omega)]
    omega
  have hbits : (v / 4096 * 64 + v / 64 % 0x40) * 64 + v % 0x40 = v := by omega
  rw [fromUtf8_cons_lead (by omega) (by rw [hlead, hstart]),
    utf8From_cons_more (by omega) hlow hhigh, utf8From_cons_last (by omega) (by omega) (by omega),
    hbits]

theorem fromUtf8_four {v : Nat} (h : 0x10000 ≤ v) (h' : v < 0x110000) (rest : List UInt8) :
    fromUtf8 (UInt8.ofNat (v / 262144 % 0x08 + 0xF0) :: UInt8.ofNat (v / 4096 % 0x40 + 0x80)
        :: UInt8.ofNat (v / 64 % 0x40 + 0x80) :: UInt8.ofNat (v % 0x40 + 0x80) :: rest)
      = (fromUtf8 rest).map (Char.ofNat v :: ·) := by
  obtain ⟨low, high, hstart, hlow, hhigh⟩ := leadByte?_four h h'
  have hlead : (UInt8.ofNat (v / 262144 % 0x08 + 0xF0)).toNat = v / 262144 + 0xF0 := by
    rw [toNat_ofNat_of_lt (by omega)]
    omega
  have hbits : ((v / 262144 * 64 + v / 4096 % 0x40) * 64 + v / 64 % 0x40) * 64 + v % 0x40 = v := by
    omega
  rw [fromUtf8_cons_lead (by omega) (by rw [hlead, hstart]),
    utf8From_cons_more (by omega) hlow hhigh, utf8From_cons_more (by omega) (by omega) (by omega),
    utf8From_cons_last (by omega) (by omega) (by omega), hbits]

/-- A character is read back from UTF-8, whatever follows. -/
theorem fromUtf8_encodeChar_append (c : Char) (rest : List UInt8) :
    fromUtf8 (String.utf8EncodeChar c ++ rest) = (fromUtf8 rest).map (c :: ·) := by
  have hvalid := isValid_toNat c
  have hvalue : c.val.toNat = c.toNat := rfl
  conv_rhs => rw [← Char.ofNat_toNat c]
  rw [String.utf8EncodeChar, hvalue]
  split
  · have hbyte := toNat_ofNat_of_lt (n := c.toNat) (by omega)
    rw [List.singleton_append, fromUtf8_cons_ascii (by omega), hbyte]
  · split
    · exact fromUtf8_two (by omega) (by omega) rest
    · split
      · exact fromUtf8_three (by omega) (by omega) (by omega) rest
      · exact fromUtf8_four (by omega) (by omega) rest

/-- Text is read back from UTF-8. -/
theorem fromUtf8_toUtf8 (cs : List Char) : fromUtf8 (toUtf8 cs) = .ok cs := by
  induction cs with
  | nil => rfl
  | cons c cs ih =>
    have hcons : toUtf8 (c :: cs) = String.utf8EncodeChar c ++ toUtf8 cs := List.flatMap_cons
    rw [hcons, fromUtf8_encodeChar_append, ih]
    rfl

/-! ## UTF-16 -/

/-- The two bytes of a unit are read as the unit. -/
theorem unit_bytes (o : ByteOrder) {n : Nat} (h : n < 0x10000) :
    ∃ a b, o.bytes n = [a, b] ∧ o.unit a b = n := by
  have hlow : (UInt8.ofNat n).toNat = n % 256 := UInt8.toNat_ofNat' ..
  have hhigh := toNat_ofNat_of_lt (n := n / 256) (by omega)
  cases o with
  | little => exact ⟨_, _, rfl, by rw [ByteOrder.unit, hlow, hhigh]; omega⟩
  | big => exact ⟨_, _, rfl, by rw [ByteOrder.unit, hlow, hhigh]; omega⟩

/-- A character is read back from UTF-16, whatever follows. -/
theorem fromUtf16_encodeChar_append (o : ByteOrder) (c : Char) (rest : List UInt8) :
    fromUtf16 o ((units16 c).flatMap o.bytes ++ rest) = (fromUtf16 o rest).map (c :: ·) := by
  have hvalid := isValid_toNat c
  conv_rhs => rw [← Char.ofNat_toNat c]
  rw [units16]
  by_cases hone : c.toNat < 0x10000
  · obtain ⟨a, b, hbytes, hunit⟩ := unit_bytes o hone
    simp only [hone, if_true, List.flatMap_cons, List.flatMap_nil, hbytes, List.cons_append,
      List.nil_append]
    rw [fromUtf16, utf16From, hunit, if_neg (by omega), if_neg (by omega), fromUtf16]
  · obtain ⟨a, b, hbytes, hunit⟩ := unit_bytes o
      (n := 0xD800 + (c.toNat - 0x10000) / 0x400) (by omega)
    obtain ⟨a', b', hbytes', hunit'⟩ := unit_bytes o
      (n := 0xDC00 + (c.toNat - 0x10000) % 0x400) (by omega)
    have hpair : 0x10000 + (0xD800 + (c.toNat - 0x10000) / 0x400 - 0xD800) * 0x400
        + (0xDC00 + (c.toNat - 0x10000) % 0x400 - 0xDC00) = c.toNat := by omega
    simp only [hone, if_false, List.flatMap_cons, List.flatMap_nil, hbytes, hbytes',
      List.cons_append, List.nil_append]
    rw [fromUtf16, utf16From, hunit, if_pos (by omega), utf16From, hunit', if_pos (by omega), hpair,
      fromUtf16]

/-- Text is read back from UTF-16. -/
theorem fromUtf16_toUtf16 (o : ByteOrder) (cs : List Char) :
    fromUtf16 o (toUtf16 o cs) = .ok cs := by
  induction cs with
  | nil => rfl
  | cons c cs ih =>
    have hcons : toUtf16 o (c :: cs) = (units16 c).flatMap o.bytes ++ toUtf16 o cs :=
      List.flatMap_cons
    rw [hcons, fromUtf16_encodeChar_append, ih]
    rfl

end CloudEvents.Encoding
