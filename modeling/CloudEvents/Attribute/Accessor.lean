import CloudEvents.Attribute.Headers
import CloudEvents.Error
import CloudEvents.Time.Reader
import CloudEvents.Uri.Reader
/-!
# Reading attributes

An attribute is looked up under the prefix that the headers use, the canonical one if they use
none; a header with a bare name is never an attribute. Source and schema are URI references,
time is a timestamp: a value of that kind is taken as it is, a text is read, and everything else
is refused. A text with unpaired surrogates is read as it is shown.
-/

namespace CloudEvents

universe u

namespace Fields

/-- The prefix under which attributes are looked up among headers. -/
def lookupPrefix {α : Type u} (f : Fields α) : Prefix :=
  match f.detectPrefix with
  | .none => .canonical
  | p => p

/-- The value of an attribute, null if it is missing. -/
def attributeValue (headers : Fields Value) (a : Attribute) : Value :=
  headers.value (headers.lookupPrefix.key a.name)

/-- The schema of the data, under its present or its former name. -/
def schemaValue (headers : Fields Value) : Value :=
  let v := headers.attributeValue .dataschema
  if v.isNull then headers.attributeValue .schemaurl else v

end Fields

/-- Whether a character is refused in a URI reference before it is read. -/
def Uri.isRefused (c : Char) : Bool := Text.isBlank c || c.toNat < 0x20 || c.toNat == 0x7F

namespace Attribute

/-- Reads the value of an attribute as a URI reference; null stays null. -/
def uri (a : Attribute) (v : Value) : Except Error Value :=
  match v with
  | .null | .uri _ => .ok v
  | v =>
    match v.text? with
    | some s =>
      if s = "" then .error (.notUri a v)
      else if s.toList.any Uri.isRefused then .error (.blankInUri a v)
      else ((Uri.read s).map Value.uri).mapError (Error.malformedUri a)
    | none => .error (.notUri a v)

/-- Reads the value of an attribute as a timestamp; null stays null. -/
def timestamp (v : Value) : Except Error Value :=
  match v with
  | .null | .time _ => .ok v
  | v =>
    match v.text?.bind Time.Timestamp.read? with
    | some t => .ok (.time t)
    | none => .error (.notTimestamp v)

end Attribute

/-- What can be asked of headers. -/
inductive Accessor where
  /-- The identity of the event. -/
  | id
  /-- Its source, as a URI reference. -/
  | source
  /-- Its version of the specification. -/
  | specversion
  /-- Its kind. -/
  | type
  /-- The media type of its data, as a text. -/
  | datacontenttype
  /-- The schema of its data, as a URI reference. -/
  | dataschema
  /-- Its subject. -/
  | subject
  /-- Its time, as a timestamp. -/
  | time
  deriving DecidableEq

/-- All accessors. -/
def Accessor.all : List Accessor :=
  [id, source, specversion, type, datacontenttype, dataschema, subject, time]

/-- Asks something of headers. -/
def Accessor.get (a : Accessor) (headers : Fields Value) : Except Error Value :=
  match a with
  | id => .ok (headers.attributeValue .id)
  | source => Attribute.source.uri (headers.attributeValue .source)
  | specversion => .ok (headers.attributeValue .specversion)
  | type => .ok (headers.attributeValue .type)
  | datacontenttype => .ok (headers.attributeValue .datacontenttype).withMediaTypeText
  | dataschema => Attribute.dataschema.uri headers.schemaValue
  | subject => .ok (headers.attributeValue .subject)
  | time => Attribute.timestamp (headers.attributeValue .time)

end CloudEvents
