import CloudEvents.Attribute.Accessor
/-!
# Attributes of spans

The names under which an event is recorded on a span, and the attributes that it is recorded
with: the display texts of its identity, source, version, kind and subject, those that are
there, in this order. They cannot be made where one of these values has no display text.
-/

namespace CloudEvents

namespace SpanAttribute

/-- The identity of the event. -/
def eventId : String := "cloudevents.event_id"

/-- The source of the event, as it is stored. -/
def eventSource : String := "cloudevents.event_source"

/-- The version of the specification. -/
def eventSpecVersion : String := "cloudevents.event_spec_version"

/-- The kind of the event. -/
def eventType : String := "cloudevents.event_type"

/-- The subject of the event. -/
def eventSubject : String := "cloudevents.event_subject"

/-- The event that is added to a span for every canonical message. -/
def canonicalized : String := "cloudevents.canonicalized"

/-- The mode in which the message came. -/
def mode : String := "cecanon.mode"

/-- The prefix under which the attributes came. -/
def transportPrefix : String := "cecanon.prefix"

end SpanAttribute

namespace Fields

/-- The source as it is stored, under the prefix that the headers use; without one there is none. -/
def storedSource (headers : Fields Value) : Value :=
  headers.attributes.value (headers.detectPrefix.key Attribute.source.name)

/-- The attributes that an event may be recorded with, with their values. -/
def spanValues (headers : Fields Value) : List (String × Value) :=
  [(SpanAttribute.eventId, headers.attributeValue .id),
    (SpanAttribute.eventSource, headers.storedSource),
    (SpanAttribute.eventSpecVersion, headers.attributeValue .specversion),
    (SpanAttribute.eventType, headers.attributeValue .type),
    (SpanAttribute.eventSubject, headers.attributeValue .subject)]

/-- A value by its display text. -/
def displayed (e : String × Value) : Except Text.LongInteger (String × Value) :=
  e.2.display.map fun shown => (e.1, .text shown)

/-- The attributes that an event is recorded with. -/
def spanAttributes (headers : Fields Value) : Except Text.LongInteger (Fields Value) :=
  ((headers.spanValues.filter fun e => !e.2.isNull).mapM displayed).map Fields.ofList

end Fields

end CloudEvents
