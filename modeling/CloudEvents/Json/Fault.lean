import CloudEvents.Text.Digits
/-!
# Faults in JSON texts

What can be wrong with a JSON text, where, and the text that says so. Places are counted in
characters; only a line feed begins a new line. An integer with too many digits is no mistake in the
text, and nothing is said about its place.
-/

namespace CloudEvents.Json

/-- What is wrong. -/
inductive Cause where
  /-- No value begins here. -/
  | value
  /-- Text follows the value. -/
  | extraData
  /-- A member name was expected. -/
  | propertyName
  /-- A colon was expected. -/
  | colon
  /-- A comma was expected. -/
  | comma
  /-- The string that begins here has no end. -/
  | unterminated
  /-- A string holds a control character. -/
  | controlCharacter
  /-- A backslash is followed by a character that it cannot be followed by. -/
  | escape
  /-- Four hexadecimal digits were expected. -/
  | unicodeEscape
  /-- The text begins with a byte order mark. -/
  | byteOrderMark
  deriving DecidableEq

/-- The text of a cause. -/
def Cause.text : Cause → String
  | .value => "Expecting value"
  | .extraData => "Extra data"
  | .propertyName => "Expecting property name enclosed in double quotes"
  | .colon => "Expecting ':' delimiter"
  | .comma => "Expecting ',' delimiter"
  | .unterminated => "Unterminated string starting at"
  | .controlCharacter => "Invalid control character at"
  | .escape => "Invalid \\escape"
  | .unicodeEscape => "Invalid \\uXXXX escape"
  | .byteOrderMark => "Unexpected UTF-8 BOM (decode using utf-8-sig)"

/-- Why the reading of a text breaks off. -/
inductive Fault where
  /-- It is no JSON: what is wrong, and the text that is left at the place. -/
  | malformed (cause : Cause) (rest : List Char)
  /-- It has an integer that is too long. -/
  | integer (fault : Text.LongInteger)

/-- A cause with its place. -/
structure Report where
  /-- What is wrong. -/
  cause : Cause
  /-- The line, from 1. -/
  line : Nat
  /-- The column, from 1. -/
  column : Nat
  /-- The number of characters before the place. -/
  position : Nat
  deriving DecidableEq

/-- The text of a report. -/
def Report.text (r : Report) : String :=
  s!"{r.cause.text}: line {r.line} column {r.column} (char {r.position})"

/-- The place of a cause in a text, of which `rest` is left there. -/
def Cause.locate (cause : Cause) (whole rest : List Char) : Report :=
  let before := whole.take (whole.length - rest.length)
  let inLine := before.reverse.takeWhile (· != '\n')
  ⟨cause, before.count '\n' + 1, inLine.length + 1, before.length⟩

/-- Why a text is not read. -/
inductive Refusal where
  /-- It is no JSON. -/
  | malformed (report : Report)
  /-- It has an integer that is too long. -/
  | integer (fault : Text.LongInteger)
  deriving DecidableEq

/-- Finds the place of a fault in the text that was read. -/
def Fault.locate (whole : List Char) : Fault → Refusal
  | malformed cause rest => .malformed (cause.locate whole rest)
  | integer fault => .integer fault

end CloudEvents.Json
