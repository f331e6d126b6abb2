/-!
# Base64

Three bytes are four digits of six bits; at the end one byte is two digits and two paddings, two
bytes are three digits and one padding. `decode` is strict: only digits and padding, padding only at
the end, nothing after it. The bits that the last digit has in excess are ignored.
-/

namespace CloudEvents.Encoding.Base64

/-- The digit with a value below 64. -/
def digit (n : Nat) : Char :=
  if n < 26 then Char.ofNat (65 + n)
  else if n < 52 then Char.ofNat (71 + n)
  else if n < 62 then Char.ofNat (n - 4)
  else if n = 62 then '+'
  else '/'

/-- The value of a digit, given by its ASCII code. -/
def value? (b : UInt8) : Option Nat :=
  let n := b.toNat
  if 65 ≤ n ∧ n ≤ 90 then some (n - 65)
  else if 97 ≤ n ∧ n ≤ 122 then some (n - 71)
  else if 48 ≤ n ∧ n ≤ 57 then some (n + 4)
  else if n = 43 then some 62
  else if n = 47 then some 63
  else none

/-- Writes bytes with padding. -/
def encode : List UInt8 → List Char
  | [] => []
  | [a] => [digit (a.toNat / 4), digit (a.toNat % 4 * 16), '=', '=']
  | [a, b] =>
    [digit (a.toNat / 4), digit (a.toNat % 4 * 16 + b.toNat / 16), digit (b.toNat % 16 * 4), '=']
  | a :: b :: c :: rest =>
    digit (a.toNat / 4) :: digit (a.toNat % 4 * 16 + b.toNat / 16)
      :: digit (b.toNat % 16 * 4 + c.toNat / 64) :: digit (c.toNat % 64) :: encode rest

/-- The bytes of a list of digit values. -/
def assemble : List Nat → List UInt8
  | a :: b :: c :: d :: rest =>
    UInt8.ofNat (a * 4 + b / 16) :: UInt8.ofNat (b % 16 * 16 + c / 4)
      :: UInt8.ofNat (c % 4 * 64 + d) :: assemble rest
  | [a, b, c] => [UInt8.ofNat (a * 4 + b / 16), UInt8.ofNat (b % 16 * 16 + c / 4)]
  | [a, b] => [UInt8.ofNat (a * 4 + b / 16)]
  | _ => []

/-- Why a text is not strict Base64. -/
inductive Fault where
  /-- The text starts with padding. -/
  | leadingPadding
  /-- Something follows the padding. -/
  | excessData
  /-- A character is neither a digit nor padding. -/
  | foreignCharacter
  /-- A digit follows padding. -/
  | discontinuousPadding
  /-- One digit is left over. -/
  | loneDigit (digits : Nat)
  /-- The last group is not filled up. -/
  | incorrectPadding
  deriving DecidableEq

/-- The text of a fault. -/
def Fault.text : Fault → String
  | .leadingPadding => "Leading padding not allowed"
  | .excessData => "Excess data after padding"
  | .foreignCharacter => "Only base64 data is allowed"
  | .discontinuousPadding => "Discontinuous padding not allowed"
  | .loneDigit digits =>
    s!"Invalid base64-encoded string: number of data characters ({digits}) cannot be 1 more than a "
      ++ "multiple of 4"
  | .incorrectPadding => "Incorrect padding"

/-- The digit values of a text. `count` digits and `pads` counted paddings have been read, and
`padded` says whether padding has begun. -/
def digits (count pads : Nat) (padded : Bool) : List UInt8 → Except Fault (List Nat)
  | [] =>
    if count % 4 = 0 then .ok []
    else if count % 4 = 1 then .error (.loneDigit count)
    else .error .incorrectPadding
  | b :: rest =>
    if b = 0x3D then
      let pads := if 2 ≤ count % 4 then pads + 1 else pads
      if 2 ≤ count % 4 ∧ 4 ≤ count % 4 + pads then
        if rest.isEmpty then .ok [] else .error .excessData
      else digits count pads true rest
    else
      match value? b with
      | none => .error .foreignCharacter
      | some n =>
        if padded then .error .discontinuousPadding
        else (digits (count + 1) 0 false rest).map (n :: ·)

/-- Reads strict Base64 from ASCII bytes. -/
def decode (bs : List UInt8) : Except Fault (List UInt8) :=
  if bs.head? = some 0x3D then .error .leadingPadding
  else (digits 0 0 false bs).map assemble

@[simp] theorem encode_nil : encode [] = [] := rfl

@[simp] theorem decode_nil : decode [] = .ok [] := rfl

theorem value?_digit {n : Nat} (h : n < 64) : value? (UInt8.ofNat (digit n).toNat) = some n := by
  have all : ∀ m, m < 64 → value? (UInt8.ofNat (digit m).toNat) = some m := by decide
  exact all n h

end CloudEvents.Encoding.Base64
