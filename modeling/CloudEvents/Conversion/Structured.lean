import CloudEvents.Conversion.Canonical
/-!
# Structured messages

`toStructured` writes an event in binary mode as a JSON document: its attributes become members
under their bare names and its payload becomes the data. The other headers stay on the envelope,
whose content type becomes that of a structured event.

## The data

A payload in bytes is read into a value if the converter reads its content type, and is written
as Base64 if not. Its content type is the one that the document declares, JSON if it declares
none. Every other payload is the data as it is.
-/

namespace CloudEvents

namespace Conversion

/-- The attributes among canonical headers, under their bare names. -/
def members (headers : Fields Value) : Fields Value :=
  Fields.ofList ((headers.entries.filter fun e => Prefix.canonical.marks e.1).map fun e =>
    (Prefix.canonical.strip e.1, e.2))

/-- The canonical headers that stay on the envelope: no attributes, and not the identity. -/
def envelope (headers : Fields Value) : Fields Value :=
  headers.filterKeys fun k => !Prefix.canonical.marks k && k != Header.identity

/-- The document with the content type of its data: the given one, or its own, or the one that the
headers declare. -/
def withContentType (document : Fields Value) (override contentType : Value) : Fields Value :=
  let name := Attribute.datacontenttype.name
  if override.isSet then document.insert name override
  else if contentType.isSet && !decide (name ∈ document) then
    document.insert name contentType.withMediaTypeText
  else document

/-- The content type of data in bytes that a document declares. -/
def declaredType (document : Fields Value) : Except Error MediaType :=
  let declared := document.value Attribute.datacontenttype.name
  if declared.isSet then MediaType.ofValue declared.withMediaTypeText else .ok MediaType.json

/-- What the structured form is built from. -/
def structuredBuilder (envelope : Fields Value) (body : List UInt8) : Builder :=
  (Builder.mk (.bytes body) (envelope.erase Header.contentType)).set Header.contentType
    (.text MediaType.eventJson.text)

end Conversion

/-- The document with the payload of a message as its data. -/
def Message.withData (m : Message) (c : Converter) (document : Fields Value) :
    Run (Fields Value) := do
  match m.payload.bytes? with
  | some bs =>
    let mediaType ← Run.lift (Conversion.declaredType document)
    if c.supports (some mediaType) then
      let request ← ((Builder.ofMessage m).set Header.contentType (.mediaType mediaType)).build
      let data ← c.toReader.ask request .any
      return document.insert Attribute.data.name data
    else
      let encoded := String.ofList (Encoding.Base64.encode bs)
      return document.insert Attribute.dataBase64.name (.text encoded)
  | none => return document.insert Attribute.data.name m.payload

/-- The structured form of an event in binary mode. The override, if it counts as something, is the
content type that the document declares. -/
def Message.toStructured (m : Message) (c : Converter) (override : Value := .null) :
    Run Message := do
  let headers := m.headers.canonicalize
  if headers.isCloudEvent then
    let envelope := Conversion.envelope headers
    let document ← m.withData c (Conversion.withContentType (Conversion.members headers) override
      (envelope.value Header.contentType))
    let body ← Run.lift (c.write (Value.ofFields document) (some MediaType.json))
    (Conversion.structuredBuilder envelope body).build
  else throw .notBinaryEvent

end CloudEvents
