import CloudEvents.Encoding.Unicode
import CloudEvents.Json.Fault
import CloudEvents.Value.Key
/-!
# Reading JSON

The values of JSON and, beside them, `NaN`, `Infinity` and `-Infinity`. A number without
fraction and exponent is an integer, every other one the nearest double. A member name that
comes again keeps its place and takes the later value. The longest number counts, so `01` is a
number with text after it. An integer with too many digits ends the reading at its place.

A string is read in two passes: `points` undoes the escapes and gives code points, among them
surrogates; `Value.ofPoints` makes one character of every pair. Surrogates that are left stay in the
string.

## Termination

`value`, `elements` and `members` call each other with one unit of fuel less. Between two calls
that consume nothing lies at most one that does, so twice the length of the text is enough.
-/

namespace CloudEvents.Json

/-- Whether a character may stand between the parts of a JSON text. -/
def isSpace (c : Char) : Bool := c == ' ' || c == '\t' || c == '\n' || c == '\r'

/-- Passes over the characters between the parts. -/
def skip (cs : List Char) : List Char := cs.dropWhile isSpace

/-! ## Strings -/

/-- The character that a letter after a backslash stands for. -/
def escaped? (c : Char) : Option Char :=
  match c with
  | '"' => some '"'
  | '\\' => some '\\'
  | '/' => some '/'
  | 'b' => some '\x08'
  | 'f' => some '\x0c'
  | 'n' => some '\n'
  | 'r' => some '\r'
  | 't' => some '\t'
  | _ => none

/-- The number of four hexadecimal digits. -/
def hexUnit? (a b c d : Char) : Option Nat := do
  let a ← Text.hexDigit? a
  let b ← Text.hexDigit? b
  let c ← Text.hexDigit? c
  let d ← Text.hexDigit? d
  return ((a * 16 + b) * 16 + c) * 16 + d

/-- The code points up to the closing quote. `opening` is the text from the
opening quote on. Four digits of a character have to be followed by at least one more character.
-/
def points (opening : List Char) : List Char → Except Fault (List Text.Point × List Char)
  | [] => .error (.malformed .unterminated opening)
  | '"' :: rest => .ok ([], rest)
  | '\\' :: [] => .error (.malformed .unterminated opening)
  | '\\' :: 'u' :: a :: b :: c :: d :: e :: rest =>
    match hexUnit? a b c d with
    | none => .error (.malformed .unicodeEscape ('u' :: a :: b :: c :: d :: e :: rest))
    | some n => (points opening (e :: rest)).map fun (ps, rest) => (.ofUnit n :: ps, rest)
  | '\\' :: 'u' :: rest => .error (.malformed .unicodeEscape ('u' :: rest))
  | '\\' :: c :: rest =>
    match escaped? c with
    | none => .error (.malformed .escape ('\\' :: c :: rest))
    | some x => (points opening rest).map fun (ps, rest) => (.char x :: ps, rest)
  | c :: rest =>
    if c.toNat < 0x20 then .error (.malformed .controlCharacter (c :: rest))
    else (points opening rest).map fun (ps, rest) => (.char c :: ps, rest)

/-- Reads a string after its opening quote. -/
def string (cs : List Char) : Except Fault (Value × List Char) :=
  (points ('"' :: cs) cs).map fun (ps, rest) => (Value.ofPoints ps, rest)

/-! ## Numbers -/

/-- Digits at the front of a text, if there are any. -/
def digits? (cs : List Char) : Option (List Char × List Char) :=
  match cs.takeWhile Char.isDigit with
  | [] => none
  | ds => some (ds, cs.dropWhile Char.isDigit)

/-- The digits of a whole number: a zero alone, or a number without leading zeros. -/
def whole? (cs : List Char) : Option (List Char × List Char) :=
  match cs with
  | '0' :: rest => some (['0'], rest)
  | _ => digits? cs

/-- The digits of a fraction. -/
def fraction? (cs : List Char) : Option (List Char × List Char) :=
  match cs with
  | '.' :: rest => digits? rest
  | _ => none

/-- An exponent. -/
def exponent? (cs : List Char) : Option (Int × List Char) :=
  match cs with
  | e :: rest =>
    if e = 'e' ∨ e = 'E' then
      match rest with
      | '-' :: rest => (digits? rest).map fun (ds, rest) => (-(Text.natOfDigits ds : Int), rest)
      | '+' :: rest => (digits? rest).map fun (ds, rest) => ((Text.natOfDigits ds : Int), rest)
      | _ => (digits? rest).map fun (ds, rest) => ((Text.natOfDigits ds : Int), rest)
    else none
  | [] => none

/-- The number of a sign, the digits before and after the point and an exponent. -/
def numberValue (negative : Bool) (whole : List Char) (fraction : Option (List Char))
    (exponent : Option Int) : Except Text.LongInteger Value :=
  if fraction.isNone && exponent.isNone then
    if Text.digitLimit < whole.length then .error (.read whole.length)
    else
      let n : Int := Text.natOfDigits whole
      .ok (.int (if negative then -n else n))
  else
    let fraction := fraction.getD []
    .ok (.float (Decimal.toFloat negative (Text.natOfDigits (whole ++ fraction))
      (exponent.getD 0 - fraction.length)))

/-- Reads a number after its sign. -/
def unsigned? (negative : Bool) (cs : List Char) :
    Option (Except Text.LongInteger Value × List Char) := do
  let (whole, rest) ← whole? cs
  let (fraction, rest) := match fraction? rest with
    | some (ds, rest) => (some ds, rest)
    | none => (none, rest)
  let (exponent, rest) := match exponent? rest with
    | some (e, rest) => (some e, rest)
    | none => (none, rest)
  return (numberValue negative whole fraction exponent, rest)

/-- Reads a number. -/
def number? (cs : List Char) : Option (Except Text.LongInteger Value × List Char) :=
  match cs with
  | '-' :: rest => unsigned? true rest
  | _ => unsigned? false cs

/-! ## Values -/

/-- The words that stand for values. -/
def words : List (List Char × Value) :=
  [("null".toList, .null), ("true".toList, .bool true), ("false".toList, .bool false),
    ("NaN".toList, .float Decimal.notANumber), ("Infinity".toList, .float Decimal.infinity),
    ("-Infinity".toList, .float (-Decimal.infinity))]

/-- Reads a word. -/
def word? (cs : List Char) : Option (Value × List Char) :=
  (words.find? fun w => w.1.isPrefixOf cs).map fun w => (w.2, cs.drop w.1.length)

/-- Reads a word or a number. -/
def scalar (cs : List Char) : Except Fault (Value × List Char) :=
  match word? cs with
  | some found => .ok found
  | none =>
    match number? cs with
    | some (found, rest) => (found.mapError Fault.integer).map fun v => (v, rest)
    | none => .error (.malformed .value cs)

/-- A mapping from the members that were read. -/
def objectOf (members : List (Value × Value)) : Value :=
  .mapping (members.foldl (fun entries e => Value.putEntry e.1 e.2 entries) [])

/-- Members whose names are texts are read as fields. -/
theorem objectOf_text (members : List (String × Value)) :
    objectOf (members.map fun e => (.text e.1, e.2)) = Value.ofFields (Fields.ofList members) := by
  have h : ∀ (l : List (String × Value)) (f : Fields Value),
      (l.map fun e => (Value.text e.1, e.2)).foldl (fun entries e => Value.putEntry e.1 e.2 entries)
          (f.entries.map fun e => (Value.text e.1, e.2))
        = (l.foldl (fun f e => f.insert e.1 e.2) f).entries.map fun e => (Value.text e.1, e.2) := by
    intro l
    induction l with
    | nil => intro f; rfl
    | cons e rest ih =>
      intro f
      rw [List.map_cons, List.foldl_cons, Value.putEntry_text]
      exact ih (f.insert e.1 e.2)
  exact congrArg Value.mapping (h members Fields.empty)

mutual

/-- Reads a value. -/
def value : (fuel : Nat) → List Char → Except Fault (Value × List Char)
  | 0, cs => .error (.malformed .value cs)
  | fuel + 1, cs =>
    match cs with
    | '"' :: rest => string rest
    | '[' :: rest =>
      match skip rest with
      | ']' :: rest => .ok (.list [], rest)
      | rest => (elements fuel rest).map fun (xs, rest) => (.list xs, rest)
    | '\x7b' :: rest =>
      match skip rest with
      | '\x7d' :: rest => .ok (.mapping [], rest)
      | rest => (members fuel rest).map fun (ms, rest) => (objectOf ms, rest)
    | _ => scalar cs

/-- Reads the elements of a list up to its closing bracket. -/
def elements : (fuel : Nat) → List Char → Except Fault (List Value × List Char)
  | 0, cs => .error (.malformed .value cs)
  | fuel + 1, cs => do
    let (x, rest) ← value fuel cs
    match skip rest with
    | ']' :: rest => .ok ([x], rest)
    | ',' :: rest => do
      let (xs, rest) ← elements fuel (skip rest)
      .ok (x :: xs, rest)
    | rest => .error (.malformed .comma rest)

/-- Reads the members of a mapping up to its closing bracket. -/
def members : (fuel : Nat) → List Char →
    Except Fault (List (Value × Value) × List Char)
  | 0, cs => .error (.malformed .value cs)
  | fuel + 1, cs =>
    match cs with
    | '"' :: rest => do
      let (name, rest) ← string rest
      match skip rest with
      | ':' :: rest => do
        let (x, rest) ← value fuel (skip rest)
        match skip rest with
        | '\x7d' :: rest => .ok ([(name, x)], rest)
        | ',' :: rest => do
          let (ms, rest) ← members fuel (skip rest)
          .ok ((name, x) :: ms, rest)
        | rest => .error (.malformed .comma rest)
      | rest => .error (.malformed .colon rest)
    | _ => .error (.malformed .propertyName cs)

end

/-- The fuel that is enough for a text. -/
def fuelFor (cs : List Char) : Nat := 2 * cs.length + 2

/-- Reads a whole text as one value. -/
def document (cs : List Char) : Except Fault Value :=
  if cs.head? = some '\uFEFF' then .error (.malformed .byteOrderMark cs)
  else do
    let (x, rest) ← value (fuelFor cs) (skip cs)
    match skip rest with
    | [] => .ok x
    | rest => .error (.malformed .extraData rest)

/-- Reads a JSON text; what is no JSON comes with its place. -/
def read (text : List Char) : Except Refusal Value := (document text).mapError (Fault.locate text)

end CloudEvents.Json
