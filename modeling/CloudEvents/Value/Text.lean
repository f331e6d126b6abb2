import CloudEvents.Decimal.Layout
import CloudEvents.Text.Quoted
import CloudEvents.Value.Basic
/-!
# Texts of values

A value has two texts. Its literal shows what it is: texts and byte strings in quotes,
containers with brackets, typed attributes by their parts. Its display text is meant for
reading: a text as it is, with U+FFFD for what is no character, a media type and a timestamp in
their usual forms, and all else by its literal.

A value has no literal where an integer is too long to be written, be it the value itself or inside
of it.
-/

namespace CloudEvents

open Text (quoted quotedBytes quotedBuffer quotedPoints)

namespace Literal

/-- The literal of a text. -/
def text (s : String) : String := String.ofList (quoted s.toList)

/-- Texts with commas between them. -/
def commaSeparated (parts : List String) : String := ", ".intercalate parts

/-- A name with a value, inside brackets. -/
def named (name value : String) : String := name ++ "=" ++ value

/-- A mapping of texts to texts. -/
def mapping (entries : List (String × String)) : String :=
  "\x7b" ++ commaSeparated (entries.map fun e => text e.1 ++ ": " ++ text e.2) ++ "\x7d"

end Literal

/-- The literal of a media type. -/
def MediaType.literal (m : MediaType) : String :=
  "MimeType(" ++ Literal.commaSeparated [Literal.named "type" (Literal.text m.mainType),
    Literal.named "subtype" (Literal.text m.subtype),
    Literal.named "parameters" (Literal.mapping m.parameters.entries)] ++ ")"

/-- The literal of a URI reference. -/
def Uri.literal (u : Uri) : String :=
  "SplitResult(" ++ Literal.commaSeparated [Literal.named "scheme" (Literal.text u.scheme),
    Literal.named "netloc" (Literal.text u.authority), Literal.named "path" (Literal.text u.path),
    Literal.named "query" (Literal.text u.query),
    Literal.named "fragment" (Literal.text u.fragment)] ++ ")"

namespace Time

/-- The literal of a distance from universal time. A distance to the west counts back from a
whole day. -/
def Offset.literal (o : Offset) : String :=
  if o.micros = 0 then "datetime.timezone.utc"
  else
    let rest := (if o.micros < 0 then o.micros + microsPerDay else o.micros).toNat
    let seconds := rest / 1000000
    let micros := rest % 1000000
    let fields := (if o.micros < 0 then [Literal.named "days" "-1"] else [])
      ++ (if seconds = 0 then [] else [Literal.named "seconds" (toString seconds)])
      ++ (if micros = 0 then [] else [Literal.named "microseconds" (toString micros)])
    "datetime.timezone(datetime.timedelta(" ++ Literal.commaSeparated fields ++ "))"

/-- The literal of a timestamp: microseconds, and then seconds, are left out when they are zero. -/
def Timestamp.literal (t : Timestamp) : String :=
  let c := t.clock
  let tail := if c.micro ≠ 0 then [c.second, c.micro] else if c.second ≠ 0 then [c.second] else []
  let fields := [t.date.year, t.date.month, t.date.day, c.hour, c.minute] ++ tail
  let zone := (t.offset.map fun o => [Literal.named "tzinfo" o.literal]).getD []
  "datetime.datetime(" ++ Literal.commaSeparated (fields.map toString ++ zone) ++ ")"

end Time

namespace Value

mutual

/-- The literal of a value. -/
def literal : Value → Except Text.LongInteger String
  | null => .ok "None"
  | bool b => .ok (if b then "True" else "False")
  | int n => (Text.integer n).map String.ofList
  | float x => .ok (String.ofList (Decimal.text x))
  | text s => .ok (Literal.text s)
  | unpaired t => .ok (String.ofList (quotedPoints t.points))
  | bytes bs => .ok (String.ofList (quotedBytes bs))
  | buffer bs => .ok ("bytearray(" ++ String.ofList (quotedBuffer bs) ++ ")")
  | list xs => (literals xs).map fun parts => "[" ++ Literal.commaSeparated parts ++ "]"
  | mapping entries =>
    (entryLiterals entries).map fun parts => "\x7b" ++ Literal.commaSeparated parts ++ "\x7d"
  | mediaType m => .ok m.literal
  | uri u => .ok u.literal
  | time t => .ok t.literal
  | message headers payload => do
    let shown ← payload.literal
    let parts ← headerLiterals headers
    return "Message(" ++ Literal.commaSeparated [Literal.named "payload" shown,
      Literal.named "headers" ("\x7b" ++ Literal.commaSeparated parts ++ "\x7d")] ++ ")"

/-- The literals of a list of values. -/
def literals : List Value → Except Text.LongInteger (List String)
  | [] => .ok []
  | x :: rest => do
    let shown ← x.literal
    let parts ← literals rest
    return shown :: parts

/-- The literals of the entries of a mapping. -/
def entryLiterals : List (Value × Value) → Except Text.LongInteger (List String)
  | [] => .ok []
  | (k, v) :: rest => do
    let name ← k.literal
    let shown ← v.literal
    let parts ← entryLiterals rest
    return (name ++ ": " ++ shown) :: parts

/-- The literals of headers. -/
def headerLiterals : List (String × Value) → Except Text.LongInteger (List String)
  | [] => .ok []
  | (k, v) :: rest => do
    let shown ← v.literal
    let parts ← headerLiterals rest
    return (Literal.text k ++ ": " ++ shown) :: parts

end

/-- The display text of a value. -/
def display : Value → Except Text.LongInteger String
  | text s => .ok s
  | unpaired t => .ok (String.ofList t.shown)
  | mediaType m => .ok m.text
  | time t => .ok (String.ofList (t.textWith ' '))
  | v => v.literal

@[simp] theorem display_text (s : String) : (text s).display = .ok s := rfl

end Value

end CloudEvents
