import CloudEvents.Encoding.Unicode
import CloudEvents.Value.Text
/-!
# Writing JSON

Values in the shortest layout, in ASCII: every character beyond it, and DEL, is written as one
or two `\u` escapes, and a surrogate as the one of its number. A URI reference is written as the
list of its five parts; every other value that JSON does not have is written as its display text.
Keys are texts, or numbers, truth values and null by their JSON texts.

Two things cannot be written: a key of another kind, and an integer that is too long, wherever it
stands. The first of them in the order of writing is the one that is told.
-/

namespace CloudEvents.Json

/-- The escape of one sixteen-bit unit. -/
def unitEscape (n : Nat) : List Char := '\\' :: 'u' :: Text.hex 4 n

/-- A character inside a string. -/
def writeChar (c : Char) : List Char :=
  match c with
  | '"' => ['\\', '"']
  | '\\' => ['\\', '\\']
  | '\n' => ['\\', 'n']
  | '\r' => ['\\', 'r']
  | '\t' => ['\\', 't']
  | '\x0c' => ['\\', 'f']
  | '\x08' => ['\\', 'b']
  | c =>
    if 0x20 ≤ c.toNat ∧ c.toNat < 0x7F then [c]
    else (Encoding.units16 c).flatMap unitEscape

/-- A string. -/
def writeString (s : String) : List Char := '"' :: s.toList.flatMap writeChar ++ ['"']

/-- A code point inside a string. -/
def writePoint : Text.Point → List Char
  | .char c => writeChar c
  | .surrogate s => unitEscape s.number

/-- A string of code points. -/
def writePoints (ps : List Text.Point) : List Char := '"' :: ps.flatMap writePoint ++ ['"']

/-- A floating-point number. -/
def writeFloat (x : Float) : List Char :=
  if x.isNaN then "NaN".toList
  else if x.isInf then (if x < 0 then "-Infinity".toList else "Infinity".toList)
  else Decimal.text x

/-- A truth value. -/
def writeBool (b : Bool) : List Char := if b then "true".toList else "false".toList

/-- Why a value cannot be written. -/
inductive WriteFault where
  /-- A key is of a kind that has no text in JSON; the full name of the kind. -/
  | key (kind : String)
  /-- An integer is too long. -/
  | integer (fault : Text.LongInteger)
  deriving DecidableEq

/-- An integer. -/
def writeInt (n : Int) : Except WriteFault (List Char) :=
  (Text.integer n).mapError WriteFault.integer

/-- The code points of a key. -/
def keyPoints : Value → Except WriteFault (List Text.Point)
  | .text s => .ok (s.toList.map .char)
  | .unpaired t => .ok t.points
  | .float x => .ok ((writeFloat x).map .char)
  | .bool b => .ok ((writeBool b).map .char)
  | .null => .ok ("null".toList.map .char)
  | .int n => (writeInt n).map fun cs => cs.map .char
  | v => .error (.key v.fullKind)

/-- Texts between brackets, with commas between them. -/
def bracketed (opening closing : Char) (parts : List (List Char)) : List Char :=
  opening :: List.intercalate [','] parts ++ [closing]

mutual

/-- Writes a value. -/
def write : Value → Except WriteFault (List Char)
  | .null => .ok "null".toList
  | .bool b => .ok (writeBool b)
  | .int n => writeInt n
  | .float x => .ok (writeFloat x)
  | .text s => .ok (writeString s)
  | .unpaired t => .ok (writePoints t.points)
  | .list xs => (writeElements xs).map (bracketed '[' ']')
  | .mapping entries => (writeMembers entries).map (bracketed '\x7b' '\x7d')
  | .uri u => .ok (bracketed '[' ']' (u.parts.map writeString))
  | v => (v.display.mapError WriteFault.integer).map writeString

/-- Writes the elements of a list. -/
def writeElements : List Value → Except WriteFault (List (List Char))
  | [] => .ok []
  | x :: rest => do
    let x ← write x
    let rest ← writeElements rest
    return x :: rest

/-- Writes the members of a mapping. -/
def writeMembers : List (Value × Value) → Except WriteFault (List (List Char))
  | [] => .ok []
  | (k, v) :: rest => do
    let k ← keyPoints k
    let v ← write v
    let rest ← writeMembers rest
    return (writePoints k ++ ':' :: v) :: rest

end

theorem writePoints_map_char (cs : List Char) :
    writePoints (cs.map Text.Point.char) = writeString (String.ofList cs) := by
  simp [writePoints, writeString, writePoint, List.flatMap_map]

end CloudEvents.Json
