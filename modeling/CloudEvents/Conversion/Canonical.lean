import CloudEvents.Converter.Basic
import CloudEvents.MediaType.Resolver
import CloudEvents.Message.Builder
/-!
# Canonical messages

`toCanonical` brings a message to binary mode under the canonical prefix, whatever it came as:

* headers that are no event in binary mode and declare an event in structured mode: the body is
  read as a document, its members become attributes, its data becomes the payload;
* an event in binary mode whose data has a content type: the canonical headers, with that
  content type;
* any other message with a content type: the canonical headers;
* everything else: the message itself.

## The document

All keys of the document get the canonical prefix. The data is the payload even if it counts as
nothing; without data, Base64 is decoded strictly; with neither the payload is an empty mapping.
The headers of the message, which are its envelope, come over the attributes of the document,
and a null in the envelope takes an attribute away.
-/

namespace CloudEvents

namespace Fields

/-- The media type of an event in structured mode that canonical headers declare, if they declare
one and are not those of an event in binary mode. -/
def structuredType? (headers : Fields Value) (resolver : Resolver) :
    Except Error (Option MediaType) :=
  if headers.isCloudEvent || !decide (Header.contentType ∈ headers) then .ok none
  else (resolver.resolve headers).map fun declared => declared.filter MediaType.isStructuredEvent

/-- Whether canonical headers declare an event in structured mode. -/
def isStructured (headers : Fields Value) (resolver : Resolver) : Except Error Bool :=
  (headers.structuredType? resolver).map Option.isSome

end Fields

/-- The media type that a structured body is read as: the syntax that the suffix names, JSON without
one. -/
def MediaType.syntaxType (m : MediaType) : MediaType :=
  { m with subtype := m.suffix?.getD MediaType.json.subtype }

namespace Conversion

/-- The content type of data that declares none. -/
def defaultDataContentType : Value := .text MediaType.json.text

/-- Decodes Base64 that a document holds as a text or as bytes. -/
def decodeData (encoded : Value) : Except Error (List UInt8) :=
  match encoded with
  | .text s =>
    if s.toList.all fun c => c.toNat < 0x80 then
      (Encoding.Base64.decode (s.toList.map fun c => UInt8.ofNat c.toNat)).mapError
        Error.encodedMalformed
    else .error .encodedNotAscii
  | .unpaired _ => .error .encodedNotAscii
  | .bytes bs | .buffer bs => (Encoding.Base64.decode bs).mapError Error.encodedMalformed
  | v => .error (.encodedKind v.kind)

/-- The document that a reader answered with, under canonical keys; `declared` says whether the
envelope declares the content type of the data. -/
def document (declared : Bool) (answer : Value) : Except Error (Fields Value) :=
  match answer.fields? with
  | some fields => .ok (fields.canonicalize true)
  | none => .error (.notDocument (DocumentFault.of declared answer))

/-- The data of a canonical document. -/
def payload (document : Fields Value) : Except Error Value :=
  let data := document.value Attribute.data.key
  let encoded := document.value Attribute.dataBase64.key
  if !data.isNull then .ok data
  else if !encoded.isNull then (decodeData encoded).map Value.bytes
  else .ok (.mapping [])

/-- The attributes of a canonical document: all but its data. -/
def attributes (document : Fields Value) : Fields Value :=
  (document.erase Attribute.data.key).erase Attribute.dataBase64.key

/-- The content type of the data: what the envelope says, or the document, or the fallback. -/
def dataContentType (envelope document : Fields Value) (fallback : Value) : Value :=
  ((envelope.value Attribute.datacontenttype.key).orElse
    (document.value Attribute.datacontenttype.key)).orElse fallback

/-- The entries of an envelope that come over the attributes of the document. -/
def overlay (envelope : Fields Value) : List (String × Value) :=
  envelope.entries.filter fun e => e.1 != Header.identity

/-- What the binary form of a document is built from. -/
def binaryBuilder (envelope document : Fields Value) (payload fallback : Value) : Builder :=
  ((Builder.mk payload (attributes document)).setEntries (overlay envelope)).set Header.contentType
    (dataContentType envelope document fallback).withMediaTypeText

end Conversion

/-- Reads the body of a message as a document and makes an event in binary mode of it. -/
def Message.ofStructured (m : Message) (envelope : Fields Value) (mediaType : MediaType)
    (r : Reader) (fallback : Value) : Run Message := do
  let request ←
    ((Builder.ofMessage m).set Header.contentType (.mediaType mediaType.syntaxType)).build
  let answer ← r.ask request .mapping
  let declared := (envelope.value Attribute.datacontenttype.key).isSet
  let document ← Run.lift (Conversion.document declared answer)
  let payload ← Run.lift (Conversion.payload document)
  (Conversion.binaryBuilder envelope document payload fallback).build

/-- The canonical form of a message. -/
def Message.toCanonical (m : Message) (r : Reader) (resolver : Resolver := {})
    (fallback : Value := Conversion.defaultDataContentType) : Run Message := do
  let headers := m.headers.canonicalize
  match ← Run.lift (headers.structuredType? resolver) with
  | some mediaType => m.ofStructured headers mediaType r fallback
  | none =>
    let declared := headers.value Attribute.datacontenttype.key
    let contentType := headers.value Header.contentType
    if headers.isCloudEvent && declared.isSet then
      ((Builder.mk m.payload headers).set Header.contentType declared.withMediaTypeText).build
    else if contentType.isSet then
      ((Builder.mk m.payload headers).set Header.contentType contentType).build
    else return m

end CloudEvents
