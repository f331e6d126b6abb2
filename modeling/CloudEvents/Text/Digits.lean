/-!
# Digits

Reading and writing of numbers with a fixed or free number of ASCII digits.

Integers have a text only up to a limit of digits: a longer one is neither written nor read, which
bounds the time that either takes. The sign does not count.

Beside ASCII every script with decimal digits has them as ten neighbouring characters, zero first
(character database 14.0).
-/

namespace CloudEvents.Text

/-- The value of an ASCII hexadecimal digit of either case. -/
def hexDigit? (c : Char) : Option Nat :=
  if '0' ≤ c ∧ c ≤ '9' then some (c.toNat - 48)
  else if 'a' ≤ c ∧ c ≤ 'f' then some (c.toNat - 87)
  else if 'A' ≤ c ∧ c ≤ 'F' then some (c.toNat - 55)
  else none

/-- The number written by a list of digits in base ten. -/
def natOfDigits (cs : List Char) : Nat := Nat.ofDigitChars 10 cs 0

/-- A number in base ten. -/
def decimal (n : Nat) : List Char := Nat.toDigits 10 n

/-- The last `width` hexadecimal digits of a number, in lower case, with leading zeros. -/
def hex : Nat → Nat → List Char
  | 0, _ => []
  | width + 1, n => hex width (n / 16) ++ [Nat.digitChar (n % 16)]

/-- A number in base ten with leading zeros up to a width. -/
def padded (width n : Nat) : List Char :=
  List.replicate (width - (decimal n).length) '0' ++ decimal n

theorem natOfDigits_decimal (n : Nat) : natOfDigits (decimal n) = n :=
  Nat.ofDigitChars_toDigits (by decide) (by decide)

theorem decimal_ne_nil (n : Nat) : decimal n ≠ [] := Nat.toDigits_ne_nil

theorem isDigit_of_mem_decimal {n : Nat} {c : Char} (h : c ∈ decimal n) : c.isDigit = true :=
  Nat.isDigit_of_mem_toDigits (by decide) (by decide) h

@[simp] theorem length_hex (width n : Nat) : (hex width n).length = width := by
  induction width generalizing n with
  | zero => rfl
  | succ w ih => simp [hex, ih]

/-! ## Integers -/

/-- The number of digits up to which an integer has a text. -/
def digitLimit : Nat := 4300

/-- An integer with no more digits than the limit. -/
def IsShort (n : Int) : Prop := (decimal n.natAbs).length ≤ digitLimit

instance : DecidablePred IsShort := fun _ => inferInstanceAs (Decidable (_ ≤ _))

/-- An integer has more digits than the limit. -/
inductive LongInteger where
  /-- It is to be read from a text with that many digits. -/
  | read (digits : Nat)
  /-- It is to be written. -/
  | written
  deriving DecidableEq

/-- The words about an integer that is too long. -/
def LongInteger.text : LongInteger → String
  | read digits =>
    s!"Exceeds the limit ({digitLimit} digits) for integer string conversion: value has {digits}"
      ++ " digits; use sys.set_int_max_str_digits() to increase the limit"
  | written =>
    s!"Exceeds the limit ({digitLimit} digits) for integer string conversion"
      ++ "; use sys.set_int_max_str_digits() to increase the limit"

/-- An integer in base ten, with a minus sign if it is negative. -/
def signed (n : Int) : List Char :=
  if n < 0 then '-' :: decimal n.natAbs else decimal n.natAbs

/-- The text of an integer that is not too long. -/
def integer (n : Int) : Except LongInteger (List Char) :=
  if IsShort n then .ok (signed n) else .error .written

/-! ## Digits of all scripts -/

/-- The zeros of all scripts. -/
def decimalZeros : List Nat :=
  [
    0x30, 0x660, 0x6F0, 0x7C0, 0x966, 0x9E6, 0xA66, 0xAE6, 0xB66, 0xBE6, 0xC66, 0xCE6, 0xD66,
    0xDE6, 0xE50, 0xED0, 0xF20, 0x1040, 0x1090, 0x17E0, 0x1810, 0x1946, 0x19D0, 0x1A80, 0x1A90,
    0x1B50, 0x1BB0, 0x1C40, 0x1C50, 0xA620, 0xA8D0, 0xA900, 0xA9D0, 0xA9F0, 0xAA50, 0xABF0,
    0xFF10, 0x104A0, 0x10D30, 0x11066, 0x110F0, 0x11136, 0x111D0, 0x112F0, 0x11450, 0x114D0,
    0x11650, 0x116C0, 0x11730, 0x118E0, 0x11950, 0x11C50, 0x11D50, 0x11DA0, 0x16A60, 0x16AC0,
    0x16B50, 0x1D7CE, 0x1D7D8, 0x1D7E2, 0x1D7EC, 0x1D7F6, 0x1E140, 0x1E2F0, 0x1E950, 0x1FBF0]

/-- Whether a character is a decimal digit of some script. -/
def isDecimalDigit (c : Char) : Bool :=
  c.isDigit || decimalZeros.any fun z => z ≤ c.toNat && c.toNat < z + 10

end CloudEvents.Text
