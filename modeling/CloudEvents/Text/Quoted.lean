import CloudEvents.Text.Digits
import CloudEvents.Text.Lowercase
import CloudEvents.Text.PrintableTable
import CloudEvents.Text.Unpaired
/-!
# Quoted literals

The literal of a text is the text between quotes: apostrophes, or double quotes where the text holds
an apostrophe and no double quote. Inside it the backslash and the chosen quote are escaped with a
backslash, line feed, return and tab by their letters, and every other character without a printed
form by its number with two, four or eight hexadecimal digits; so is a surrogate. A literal of bytes
follows the same rule with every byte beyond printable ASCII as a two-digit escape. A literal of
bytes that their owner may change chooses its quotes in the same way, but always escapes the
apostrophe, and never the double quote.
-/

namespace CloudEvents.Text

/-- Whether a literal shows the character as it is: ASCII is decided by its bounds, all else by the
table of ranges. -/
def isPrintable (c : Char) : Bool :=
  if c.toNat < 0x7F then 0x20 ≤ c.toNat else !inRanges unprintableRanges c.toNat

/-- The quote that a literal of this text is put in. -/
def quoteFor (cs : List Char) : Char :=
  if '\'' ∈ cs ∧ '"' ∉ cs then '"' else '\''

/-- A character by its number, in the shortest of the three widths. -/
def escapeNumber (n : Nat) : List Char :=
  if n < 0x100 then '\\' :: 'x' :: hex 2 n
  else if n < 0x10000 then '\\' :: 'u' :: hex 4 n
  else '\\' :: 'U' :: hex 8 n

/-- The escapes that do not depend on whether the character is printable. -/
def escapeShort? (q c : Char) : Option (List Char) :=
  if c = q ∨ c = '\\' then some ['\\', c]
  else if c = '\n' then some ['\\', 'n']
  else if c = '\r' then some ['\\', 'r']
  else if c = '\t' then some ['\\', 't']
  else none

/-- One character inside a literal with quote `q`. -/
def escapeChar (q c : Char) : List Char :=
  (escapeShort? q c).getD (if isPrintable c then [c] else escapeNumber c.toNat)

/-- The literal of a text. -/
def quoted (cs : List Char) : List Char :=
  let q := quoteFor cs
  q :: cs.flatMap (escapeChar q) ++ [q]

/-- One code point inside a literal with quote `q`. -/
def escapePoint (q : Char) : Point → List Char
  | .char c => escapeChar q c
  | .surrogate s => escapeNumber s.number

/-- The literal of code points. -/
def quotedPoints (ps : List Point) : List Char :=
  let q := quoteFor (ps.map Point.shown)
  q :: ps.flatMap (escapePoint q) ++ [q]

/-- One byte inside a literal with quote `q`. -/
def escapeByte (q : Char) (b : UInt8) : List Char :=
  let c := Char.ofNat b.toNat
  (escapeShort? q c).getD (if 0x20 ≤ b.toNat ∧ b.toNat < 0x7F then [c] else escapeNumber b.toNat)

/-- The quote that a literal of these bytes is put in. -/
def byteQuote (bs : List UInt8) : Char := quoteFor (bs.map fun b => Char.ofNat b.toNat)

/-- Bytes between quotes `q`, with the quote `escaped` behind a backslash. -/
def bytesBetween (q escaped : Char) (bs : List UInt8) : List Char :=
  'b' :: q :: bs.flatMap (escapeByte escaped) ++ [q]

/-- The literal of a byte string. -/
def quotedBytes (bs : List UInt8) : List Char := bytesBetween (byteQuote bs) (byteQuote bs) bs

/-- The literal of the bytes of a byte string that its owner may change. -/
def quotedBuffer (bs : List UInt8) : List Char := bytesBetween (byteQuote bs) '\'' bs

@[simp] theorem quotedPoints_map_char (cs : List Char) :
    quotedPoints (cs.map Point.char) = quoted cs := by
  simp [quotedPoints, quoted, escapePoint, List.flatMap_map, Function.comp_def]

end CloudEvents.Text
