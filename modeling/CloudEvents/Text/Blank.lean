/-!
# Blanks and trimming

A blank is any character that a reader of headers may leave around a word: the ASCII spaces and line
ends, the four separators U+001C to U+001F, next line, the no-break space and the space and line
separators beyond ASCII. `trim` takes the blanks off both ends of a text and leaves those inside.
-/

namespace CloudEvents.Text

/-- Whether a character is a blank. -/
def isBlank (c : Char) : Bool :=
  let n := c.toNat
  (0x09 ≤ n && n ≤ 0x0D) || (0x1C ≤ n && n ≤ 0x20) || n == 0x85 || n == 0xA0 || n == 0x1680
    || (0x2000 ≤ n && n ≤ 0x200A) || n == 0x2028 || n == 0x2029 || n == 0x202F || n == 0x205F
    || n == 0x3000

/-- Takes the characters of a class off the end of a text. -/
def trimEnd (p : Char → Bool) (cs : List Char) : List Char := (cs.reverse.dropWhile p).reverse

/-- Takes the characters of a class off both ends of a text. -/
def trimOf (p : Char → Bool) (cs : List Char) : List Char := trimEnd p (cs.dropWhile p)

/-- Takes the blanks off both ends of a text. -/
def trim (cs : List Char) : List Char := trimOf isBlank cs

@[simp] theorem trimEnd_nil (p : Char → Bool) : trimEnd p [] = [] := rfl

@[simp] theorem trimOf_nil (p : Char → Bool) : trimOf p [] = [] := rfl

@[simp] theorem trim_nil : trim [] = [] := rfl

end CloudEvents.Text
