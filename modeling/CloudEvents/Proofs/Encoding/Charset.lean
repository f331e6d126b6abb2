import CloudEvents.Encoding.Charset
import CloudEvents.Proofs.Encoding.Unicode
/-!
# Texts that are read back

Every character set reads what it has written (`Charset.decode_of_encode?`), with its byte order
mark if it writes one. Not every text can be written in every character set, but ASCII texts can.
-/

namespace CloudEvents.Encoding

variable {cs : List Char} {bs : List UInt8}

/-! ## One byte for a character -/

theorem toBytesBelow?_cons (bound : Nat) (c : Char) (cs : List Char) :
    toBytesBelow? bound (c :: cs) =
      if c.toNat < bound then (toBytesBelow? bound cs).map (UInt8.ofNat c.toNat :: ·)
      else none := by
  rw [toBytesBelow?, List.mapM_cons]
  by_cases hc : c.toNat < bound
  · rw [if_pos hc, if_pos hc, toBytesBelow?]
    cases List.mapM (fun c : Char => if c.toNat < bound then some (UInt8.ofNat c.toNat) else none)
      cs <;> rfl
  · rw [if_neg hc, if_neg hc]
    rfl

/-- Characters below a bound are read back from their bytes. -/
theorem fromBytesBelow_of_toBytesBelow? {bound : Nat} (hbound : bound ≤ 256)
    (h : toBytesBelow? bound cs = some bs) : fromBytesBelow bound bs = .ok cs := by
  induction cs generalizing bs with
  | nil =>
    rw [toBytesBelow?, List.mapM_nil] at h
    rw [← Option.some.inj h]
    rfl
  | cons c cs ih =>
    rw [toBytesBelow?_cons] at h
    split at h
    · rename_i hc
      obtain ⟨rest, hrest, rfl⟩ := Option.map_eq_some_iff.1 h
      have hbyte := toNat_ofNat_of_lt (n := c.toNat) (by omega)
      rw [fromBytesBelow, hbyte, if_pos hc, ih hrest, Char.ofNat_toNat]
      rfl
    · cases h

theorem exists_toBytesBelow? {bound : Nat} (h : ∀ c ∈ cs, c.toNat < bound) :
    ∃ bs, toBytesBelow? bound cs = some bs := by
  induction cs with
  | nil => exact ⟨[], rfl⟩
  | cons c cs ih =>
    obtain ⟨bs, hbs⟩ := ih fun x hx => h x (List.mem_cons_of_mem c hx)
    rw [toBytesBelow?_cons, if_pos (h c List.mem_cons_self), hbs]
    exact ⟨_, rfl⟩

/-! ## Character sets -/

namespace Charset

/-- A character set that can be looked up under a name. -/
structure HasName (charset : Charset) (name : String) : Prop where
  /-- The name does not hold the character zero. -/
  noZero : holdsZero name = false
  /-- It is one of the names of the character set. -/
  named : Charset.named name = .ok charset

@[simp] theorem decode_nil (charset : Charset) : charset.decode [] = .ok [] := by
  cases charset <;> rfl

/-- What a character set writes, it reads. -/
theorem decode_of_encode? {charset : Charset} (h : charset.encode? cs = some bs) :
    charset.decode bs = .ok cs := by
  cases charset with
  | utf8 =>
    rw [← Option.some.inj h, decode, fromUtf8_toUtf8]
    rfl
  | utf8Marked =>
    rw [← Option.some.inj h, decode]
    simp only [fromUtf8_toUtf8]
    rfl
  | latin1 =>
    rw [decode, fromBytesBelow_of_toBytesBelow? (by decide) h]
    rfl
  | ascii =>
    rw [decode, fromBytesBelow_of_toBytesBelow? (by decide) h]
    rfl
  | utf16 =>
    rw [← Option.some.inj h, decode]
    simp only [fromUtf16_toUtf16]
    rfl
  | utf16In order =>
    rw [← Option.some.inj h, decode, fromUtf16_toUtf16]
    rfl

/-- ASCII texts can be written in every character set. -/
theorem exists_encode?_of_ascii (charset : Charset) (h : ∀ c ∈ cs, c.toNat < 0x80) :
    ∃ bs, charset.encode? cs = some bs := by
  cases charset with
  | latin1 => exact exists_toBytesBelow? fun c hc => Nat.lt_trans (h c hc) (by decide)
  | ascii => exact exists_toBytesBelow? h
  | _ => exact ⟨_, rfl⟩

end Charset

end CloudEvents.Encoding
