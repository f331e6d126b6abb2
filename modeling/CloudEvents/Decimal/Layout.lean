import CloudEvents.Decimal.Shortest
import CloudEvents.Text.Blank
/-!
# Texts of floating-point numbers

The digits are the fewest that read back. A `Layout` says which powers of ten of the leading
digit are written positionally, always with a fraction, and how many digits an exponent has at
least elsewhere. The infinities are `inf` and `-inf`, and what is not a number is `nan`.

Reading goes the other way: `toFloat` is the double nearest to a decimal, which is infinite
beyond the largest double and zero below the smallest.
-/

namespace CloudEvents.Decimal

/-- The decisions of a format of numbers. -/
structure Layout where
  /-- The least power of ten of a leading digit that is written positionally. -/
  least : Int
  /-- The first greater one that is not. -/
  bound : Int
  /-- The least number of digits of an exponent. -/
  exponentWidth : Nat

/-- Leading digits from `10 ^ -4` to `10 ^ 15` are written positionally, and exponents have two
digits. -/
def Layout.usual : Layout := ⟨-4, 16, 2⟩

/-- Digits and the power of ten of the first one, with a point among them. -/
def positional (digits : List Char) (e : Int) : List Char :=
  if e < 0 then '0' :: '.' :: List.replicate (-e - 1).toNat '0' ++ digits
  else
    let whole := e.toNat + 1
    if digits.length ≤ whole then
      digits ++ List.replicate (whole - digits.length) '0' ++ ['.', '0']
    else digits.take whole ++ '.' :: digits.drop whole

/-- Digits and the power of ten of the first one, with an exponent of at least `width` digits. -/
def scientific (width : Nat) (digits : List Char) (e : Int) : List Char :=
  let point := match digits.drop 1 with
    | [] => []
    | rest => '.' :: rest
  digits.take 1 ++ point ++ ['e', if e < 0 then '-' else '+'] ++ Text.padded width e.natAbs

/-- The text of a positive double. -/
def Layout.text (l : Layout) (b : Binary) : List Char :=
  let (t, unit) := b.shortest
  let all := Text.decimal t
  let e := unit + all.length - 1
  let digits := Text.trimEnd (· == '0') all
  if l.least ≤ e ∧ e < l.bound then positional digits e
  else scientific l.exponentWidth digits e

/-- The text of the double with these 64 bits. -/
def textOfBits (bits : Nat) : List Char :=
  let exponent := bits / fractionSize % 2048
  let fraction := bits % fractionSize
  let sign := if bits / fractionSize / 2048 = 0 then [] else ['-']
  if exponent = 2047 then
    if fraction = 0 then sign ++ ['i', 'n', 'f'] else ['n', 'a', 'n']
  else if exponent = 0 ∧ fraction = 0 then sign ++ ['0', '.', '0']
  else sign ++ Layout.usual.text (Binary.ofFields exponent fraction)

/-- The text of a double. -/
def text (x : Float) : List Char := textOfBits x.toBits.toNat

/-- Infinity. -/
def infinity : Float := Float.ofBits 0x7FF0000000000000

/-- What is not a number. -/
def notANumber : Float := Float.ofBits 0x7FF8000000000000

/-- The integer that a double is, if it is one. -/
def integer? (x : Float) : Option Int :=
  let bits := x.toBits.toNat
  let exponent := bits / fractionSize % 2048
  let b := Binary.ofFields exponent (bits % fractionSize)
  let whole := b.mantissa * twoPow b.exponent
  let parts := twoPow (-b.exponent)
  if exponent = 2047 ∨ whole % parts ≠ 0 then none
  else if bits / fractionSize / 2048 = 0 then some (whole / parts : Nat)
  else some (-(whole / parts : Nat))

/-- The double nearest to `digits · 10 ^ exponent`. The two bounds keep the power of ten small:
beyond them the answer is infinity or zero. -/
def nearest (digits : Nat) (exponent : Int) : Float :=
  let size := ((Text.decimal digits).length : Int) + exponent
  if digits = 0 ∨ size < -400 then 0
  else if 400 < size then infinity
  else Float.ofScientific digits (exponent < 0) exponent.natAbs

/-- The double nearest to a signed decimal. -/
def toFloat (negative : Bool) (digits : Nat) (exponent : Int) : Float :=
  if negative then -(nearest digits exponent) else nearest digits exponent

end CloudEvents.Decimal
