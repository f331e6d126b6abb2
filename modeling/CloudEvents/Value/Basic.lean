import CloudEvents.MediaType.Basic
import CloudEvents.Text.Unpaired
import CloudEvents.Time.Timestamp
import CloudEvents.Uri.Basic
/-!
# Values

What a header, a payload or an argument can hold: the values of JSON, byte strings in two forms,
and the typed attributes of an event. Mappings keep the order of their entries, and their keys
are values. A message inside a value is kept as its headers and its payload.

A text that holds surrogates is a text of code points and not of characters. It keeps them where it
is written as JSON or as a literal; where a text of characters has to be made of it, `text?` shows
U+FFFD for each surrogate.

## Presence

`isNull` tells the missing value apart. `isSet` tells apart the values that count as nothing
where a default may take their place: null, false, zero, and every empty text, byte string, list
and mapping.

## Names of kinds

`kind` is the name under which a value appears in an error text, and in the default type of an
event.
-/

namespace CloudEvents

/-- A header value, a payload or an argument. -/
inductive Value where
  /-- The missing value. -/
  | null
  /-- A truth value. -/
  | bool (b : Bool)
  /-- An integer. -/
  | int (n : Int)
  /-- A floating-point number. -/
  | float (x : Float)
  /-- A text. -/
  | text (s : String)
  /-- A text that holds surrogates. -/
  | unpaired (t : Text.Unpaired)
  /-- A byte string. -/
  | bytes (bs : List UInt8)
  /-- A byte string that its owner may change. -/
  | buffer (bs : List UInt8)
  /-- A list. -/
  | list (xs : List Value)
  /-- A mapping, in order. -/
  | mapping (entries : List (Value × Value))
  /-- A media type. -/
  | mediaType (m : MediaType)
  /-- A URI reference. -/
  | uri (u : Uri)
  /-- A timestamp. -/
  | time (t : Time.Timestamp)
  /-- A message, by its headers and its payload. -/
  | message (headers : List (String × Value)) (payload : Value)

namespace Value

instance : Inhabited Value := ⟨null⟩

/-- Whether the value is the missing one. -/
def isNull : Value → Bool
  | null => true
  | _ => false

/-- Whether the value counts as something where a default may take its place. -/
def isSet : Value → Bool
  | null => false
  | bool b => b
  | int n => n != 0
  | float x => x != 0
  | text s => s != ""
  | bytes bs | buffer bs => !bs.isEmpty
  | list xs => !xs.isEmpty
  | mapping entries => !entries.isEmpty
  | unpaired _ | mediaType _ | uri _ | time _ | message _ _ => true

/-- The name of the kind of a value. -/
def kind : Value → String
  | null => "NoneType"
  | bool _ => "bool"
  | int _ => "int"
  | float _ => "float"
  | text _ | unpaired _ => "str"
  | bytes _ => "bytes"
  | buffer _ => "bytearray"
  | list _ => "list"
  | mapping _ => "dict"
  | mediaType _ => "MimeType"
  | uri _ => "SplitResult"
  | time _ => "datetime"
  | message _ _ => "Message"

/-- The full name of the kind of a value: that of a timestamp names its family too. -/
def fullKind : Value → String
  | time _ => "datetime.datetime"
  | v => v.kind

/-- The first value if it counts as something, else the second. -/
def orElse (a b : Value) : Value := if a.isSet then a else b

/-- The value in an option, or null. -/
def ofOption (v : Option Value) : Value := v.getD null

/-- The text of code points, whose pairs are joined first. -/
def ofPoints (ps : List Text.Point) : Value :=
  match h : Text.chars? (Text.joinPairs ps) with
  | some cs => text (String.ofList cs)
  | none => unpaired ⟨Text.joinPairs ps, h⟩

/-- A text, with U+FFFD in the place of every surrogate. -/
def text? : Value → Option String
  | text s => some s
  | unpaired t => some (String.ofList t.shown)
  | _ => none

/-- A byte string in either form. -/
def bytes? : Value → Option (List UInt8)
  | bytes bs | buffer bs => some bs
  | _ => none

/-- A media type is stored as its text; all else stays as it is. -/
def withMediaTypeText : Value → Value
  | mediaType m => text m.text
  | v => v

/-- Media types and URI references are stored as their texts; all else stays as it is. -/
def withText : Value → Value
  | mediaType m => text m.text
  | uri u => text u.text
  | v => v

/-- A timestamp is stored as its text; all else stays as it is. -/
def withTimeText : Value → Value
  | time t => text t.text
  | v => v

/-- Fields as a mapping. -/
def ofFields (f : Fields Value) : Value := mapping (f.entries.map fun e => (text e.1, e.2))

/-- The entries of a mapping whose keys are all texts. -/
def textEntries? : List (Value × Value) → Option (List (String × Value))
  | [] => some []
  | (k, v) :: rest =>
    match k.text? with
    | some k => (textEntries? rest).map ((k, v) :: ·)
    | none => none

/-- A mapping whose keys are all texts, as fields. -/
def fields? : Value → Option (Fields Value)
  | mapping entries => (textEntries? entries).map Fields.ofList
  | _ => none

@[simp] theorem isNull_null : null.isNull = true := rfl

theorem isNull_iff {v : Value} : v.isNull = true ↔ v = null := by
  cases v <;> simp [isNull]

theorem isSet_of_isNull {v : Value} (h : v.isNull = true) : v.isSet = false := by
  rw [isNull_iff.1 h]; rfl

theorem textEntries?_map (l : List (String × Value)) :
    textEntries? (l.map fun e => (text e.1, e.2)) = some l := by
  induction l with
  | nil => rfl
  | cons e rest ih => simp [textEntries?, text?, ih]

@[simp] theorem ofPoints_map_char (cs : List Char) :
    ofPoints (cs.map Text.Point.char) = text (String.ofList cs) := by
  rw [ofPoints]
  split
  · rename_i cs' h
    rw [Text.joinPairs_map_char, Text.chars?_map_char, Option.some_inj] at h
    rw [h]
  · rename_i h
    simp at h

/-- A text that holds surrogates is the value of its code points if no two of them are a pair. -/
theorem ofPoints_points {t : Text.Unpaired} (hjoined : Text.isJoined t.points = true) :
    ofPoints t.points = unpaired t := by
  rw [ofPoints]
  split
  · rename_i cs h
    rw [Text.joinPairs_of_isJoined hjoined, t.unpaired] at h
    cases h
  · cases t with
    | mk points lone =>
      congr 2
      exact Text.joinPairs_of_isJoined hjoined

end Value

/-- The value under a name, null if there is none. -/
def Fields.value (f : Fields Value) (k : String) : Value := Value.ofOption (f.get? k)

end CloudEvents
