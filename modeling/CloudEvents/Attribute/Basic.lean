import CloudEvents.Attribute.Prefix
/-!
# Event attributes

The names that a structured document gives to the attributes and the data of an event. Under a
prefix they are header keys; the canonical key is the one under `ce-`.
-/

namespace CloudEvents

/-- A member of a structured document with a meaning of its own. -/
inductive Attribute where
  /-- The data. -/
  | data
  /-- The data as Base64. -/
  | dataBase64
  /-- The identity of the event. -/
  | id
  /-- Where the event comes from. -/
  | source
  /-- The version of the specification. -/
  | specversion
  /-- The kind of the event. -/
  | type
  /-- The media type of the data. -/
  | datacontenttype
  /-- The schema of the data. -/
  | dataschema
  /-- The schema of the data, under its former name. -/
  | schemaurl
  /-- What the event is about. -/
  | subject
  /-- When the event happened. -/
  | time
  deriving DecidableEq

namespace Attribute

/-- The bare name. -/
def name : Attribute → String
  | data => "data"
  | dataBase64 => "data_base64"
  | id => "id"
  | source => "source"
  | specversion => "specversion"
  | type => "type"
  | datacontenttype => "datacontenttype"
  | dataschema => "dataschema"
  | schemaurl => "schemaurl"
  | subject => "subject"
  | time => "time"

/-- The canonical header key. -/
def key (a : Attribute) : String := Prefix.canonical.key a.name

/-- The attributes whose presence makes headers an event in binary mode. -/
def required : List Attribute := [specversion, type, source]

/-- The version of the specification that an event gets by default. -/
def defaultSpecversion : String := "1.0"

/-- The source that an event gets by default. -/
def defaultSource : String := "urn:cecanon"

end Attribute

end CloudEvents
