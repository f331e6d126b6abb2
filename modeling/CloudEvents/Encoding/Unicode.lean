/-!
# The Unicode encoding forms

Bytes to characters and back in UTF-8 and UTF-16. Both readers are machines that look at one unit
after the other and keep what is pending; a fault names the input from the first byte of the bad
stretch on, the length of the stretch and the reason.
-/

namespace CloudEvents.Encoding

/-- Why a byte sequence is not text. -/
inductive Reason where
  /-- No sequence starts with this byte. -/
  | invalidStart
  /-- A sequence is broken off by a byte that cannot continue it. -/
  | invalidContinuation
  /-- The input ends inside a sequence. -/
  | unexpectedEnd
  /-- The input ends inside a unit. -/
  | truncated
  /-- A low surrogate without a high one. -/
  | loneLow
  /-- A high surrogate without a low one. -/
  | loneHigh
  /-- The byte stands for no character of the set with this many members. -/
  | outOfRange (size : Nat)
  /-- Anything else, in these words. -/
  | other (text : String)
  deriving DecidableEq

/-- A bad stretch of the input. -/
structure Stretch where
  /-- The input from the first bad byte on. -/
  rest : List UInt8
  /-- How many of its bytes are bad. -/
  length : Nat
  /-- What is wrong with them. -/
  reason : Reason

/-! ## UTF-8 -/

/-- A sequence that has been started. -/
structure Pending where
  /-- The input from its first byte on. -/
  start : List UInt8
  /-- How many of its bytes have been read. -/
  taken : Nat
  /-- How many are still to come, less one. -/
  missing : Nat
  /-- The least byte that may come next. -/
  low : Nat
  /-- The greatest byte that may come next. -/
  high : Nat
  /-- The bits read so far. -/
  bits : Nat

/-- What the first byte of a longer sequence says: how many bytes follow, less one, the bounds
of the second one, and its own bits. -/
def leadByte? (b : Nat) : Option (Nat × Nat × Nat × Nat) :=
  if 0xC2 ≤ b ∧ b ≤ 0xDF then some (0, 0x80, 0xBF, b - 0xC0)
  else if b = 0xE0 then some (1, 0xA0, 0xBF, 0)
  else if b = 0xED then some (1, 0x80, 0x9F, 0xD)
  else if 0xE1 ≤ b ∧ b ≤ 0xEF then some (1, 0x80, 0xBF, b - 0xE0)
  else if b = 0xF0 then some (2, 0x90, 0xBF, 0)
  else if 0xF1 ≤ b ∧ b ≤ 0xF3 then some (2, 0x80, 0xBF, b - 0xF0)
  else if b = 0xF4 then some (2, 0x80, 0x8F, 4)
  else none

/-- Reads UTF-8 from a state of the machine. -/
def utf8From : Option Pending → List UInt8 → Except Stretch (List Char)
  | none, [] => .ok []
  | some p, [] => .error ⟨p.start, p.taken, .unexpectedEnd⟩
  | none, b :: rest =>
    if b.toNat < 0x80 then (utf8From none rest).map (Char.ofNat b.toNat :: ·)
    else
      match leadByte? b.toNat with
      | none => .error ⟨b :: rest, 1, .invalidStart⟩
      | some (missing, low, high, bits) =>
        utf8From (some ⟨b :: rest, 1, missing, low, high, bits⟩) rest
  | some p, b :: rest =>
    if p.low ≤ b.toNat ∧ b.toNat ≤ p.high then
      let bits := p.bits * 64 + (b.toNat - 0x80)
      match p.missing with
      | 0 => (utf8From none rest).map (Char.ofNat bits :: ·)
      | missing + 1 => utf8From (some ⟨p.start, p.taken + 1, missing, 0x80, 0xBF, bits⟩) rest
    else .error ⟨p.start, p.taken, .invalidContinuation⟩

/-- Reads UTF-8. -/
def fromUtf8 (bs : List UInt8) : Except Stretch (List Char) := utf8From none bs

/-- Writes UTF-8. -/
def toUtf8 (cs : List Char) : List UInt8 := cs.flatMap String.utf8EncodeChar

@[simp] theorem fromUtf8_nil : fromUtf8 [] = .ok [] := rfl

theorem fromUtf8_cons_ascii {b : UInt8} (h : b.toNat < 0x80) (rest : List UInt8) :
    fromUtf8 (b :: rest) = (fromUtf8 rest).map (Char.ofNat b.toNat :: ·) := by
  rw [fromUtf8, utf8From, if_pos h, fromUtf8]

/-! ## UTF-16 -/

/-- The order of the two bytes of a unit. -/
inductive ByteOrder where
  /-- The low byte comes first. -/
  | little
  /-- The high byte comes first. -/
  | big
  deriving DecidableEq

/-- The unit that two bytes make up. -/
def ByteOrder.unit : ByteOrder → UInt8 → UInt8 → Nat
  | .little, a, b => b.toNat * 256 + a.toNat
  | .big, a, b => a.toNat * 256 + b.toNat

/-- The two bytes of a unit. -/
def ByteOrder.bytes (o : ByteOrder) (unit : Nat) : List UInt8 :=
  match o with
  | .little => [UInt8.ofNat unit, UInt8.ofNat (unit / 256)]
  | .big => [UInt8.ofNat (unit / 256), UInt8.ofNat unit]

/-- Reads UTF-16; the first argument is a high surrogate that waits for its partner, with the input
from it on. -/
def utf16From (o : ByteOrder) : Option (Nat × List UInt8) → List UInt8 → Except Stretch (List Char)
  | none, [] => .ok []
  | none, [b] => .error ⟨[b], 1, .truncated⟩
  | some (_, start), [] => .error ⟨start, 2, .unexpectedEnd⟩
  | some (_, start), [_] => .error ⟨start, 3, .unexpectedEnd⟩
  | none, a :: b :: rest =>
    let unit := o.unit a b
    if 0xD800 ≤ unit ∧ unit < 0xDC00 then utf16From o (some (unit, a :: b :: rest)) rest
    else if 0xDC00 ≤ unit ∧ unit < 0xE000 then .error ⟨a :: b :: rest, 2, .loneLow⟩
    else (utf16From o none rest).map (Char.ofNat unit :: ·)
  | some (high, start), a :: b :: rest =>
    let unit := o.unit a b
    if 0xDC00 ≤ unit ∧ unit < 0xE000 then
      let n := 0x10000 + (high - 0xD800) * 0x400 + (unit - 0xDC00)
      (utf16From o none rest).map (Char.ofNat n :: ·)
    else .error ⟨start, 2, .loneHigh⟩

/-- Reads UTF-16. -/
def fromUtf16 (o : ByteOrder) (bs : List UInt8) : Except Stretch (List Char) := utf16From o none bs

/-- The one or two units of a character. -/
def units16 (c : Char) : List Nat :=
  let n := c.toNat
  if n < 0x10000 then [n]
  else [0xD800 + (n - 0x10000) / 0x400, 0xDC00 + (n - 0x10000) % 0x400]

/-- Writes UTF-16. -/
def toUtf16 (o : ByteOrder) (cs : List Char) : List UInt8 := cs.flatMap fun c =>
  (units16 c).flatMap o.bytes

end CloudEvents.Encoding
